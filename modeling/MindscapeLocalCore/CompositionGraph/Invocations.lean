import MindscapeLocalCore.CompositionGraph.InputValues

/-!
When executors are called: each node's once at most, after the nodes that it depends on have
succeeded, and no two at a time under one runtime lock.
-/

namespace MindscapeLocalCore.CompositionGraph.Invocations

open Library Values Graph Runner InputValues

variable {setting : Setting} {nodeStates : String → Option NodeState} {s s' : RunState} {i : ℕ}
  {task : Task} {phase : Phase}

/-! ### What every step keeps -/

/-- All nodes with an edge into the node have succeeded. -/
def Upstream (setting : Setting) (s : RunState) (nodeId : String) : Prop :=
  ∀ edge ∈ incoming setting nodeId, SourceSucceeded s.nodeStates edge

structure Exclusive (setting : Setting) (s : RunState) : Prop where
  once : (s.invoked.map Invocation.nodeId).Nodup
  called : ∀ call ∈ s.invoked, call.nodeId ∈ s.completed ∨
    ∃ task ∈ s.batch, task.node.id = call.nodeId ∧ Settled task.phase
  locked : ∀ (i j : ℕ) (a b : Runner.Task) (key : String), s.batch[i]? = some a →
    s.batch[j]? = some b → a.phase.key = some key → b.phase.key = some key → i = j
  upstream : ∀ task ∈ s.batch, ∀ inputs, inputsOf task.phase = some inputs →
    Upstream setting s task.node.id
  succeeded : ∀ call ∈ s.invoked, Upstream setting s call.nodeId

theorem Upstream.congr {nodeId : String} (h : Upstream setting s nodeId)
    (hsame : ∀ edge ∈ incoming setting nodeId,
      s'.nodeStates edge.source = s.nodeStates edge.source) : Upstream setting s' nodeId := by
  intro edge hedge
  unfold SourceSucceeded
  rw [hsame edge hedge]
  exact h edge hedge

theorem settled_of_invocation {nodeId : String} {call : Invocation}
    (h : call ∈ phase.invocation nodeId) : Settled phase := by
  cases phase with
  | calling key inputs => trivial
  | queued | skipping inputs upstream | referring inputs | referred | unknown inputs
  | locking key inputs | starting key inputs | ending key result | done | raised text => cases h

theorem nodup_invocation (phase : Phase) (nodeId : String) :
    ((phase.invocation nodeId).map Invocation.nodeId).Nodup := by
  cases phase <;> simp [Phase.invocation]

theorem Exclusive.moved (h : Exclusive setting s) (hvalid : Valid setting s)
    (hmoved : Moved setting s s' i task phase) (hturned : Turned s task phase) :
    Exclusive setting s' := by
  have htask : task ∈ s.batch := List.mem_of_getElem? hmoved.mem
  have hid : task.node.id ∈ ids s.batch := List.mem_map.mpr ⟨task, htask, rfl⟩
  have hsame : ∀ other ∈ s.batch, other.node.id = task.node.id → other = task :=
    fun other hother heq => List.inj_on_of_nodup_map hvalid.nodup hother htask heq
  have hplace : (⟨task.node, phase⟩ : Runner.Task) ∈ s'.batch := by
    rw [hmoved.batch]
    exact List.mem_set (List.getElem?_eq_some_iff.mp hmoved.mem).1 _
  have hstates : ∀ id ∈ s.completed, s'.nodeStates id = s.nodeStates id := by
    intro id hmem
    refine hmoved.nodeStates id ?_
    rintro rfl
    exact hvalid.fresh _ hid hmem
  -- the sources of the edges into a node of the batch are completed, and keep their states
  have hbatch : ∀ other ∈ s.batch, Upstream setting s other.node.id →
      Upstream setting s' other.node.id := fun other hother hup =>
    hup.congr fun edge hedge => hstates _ (completed_of_waitsFor
      (hvalid.ready _ (List.mem_map.mpr ⟨other, hother, rfl⟩)) edge hedge)
  have hphase : ∀ inputs, inputsOf phase = some inputs → Upstream setting s' task.node.id := by
    intro inputs hinputs
    refine hbatch task htask ?_
    rcases hmoved.inputs inputs hinputs with hbefore | ⟨-, hsucceeded⟩
    · exact h.upstream task htask inputs hbefore
    · exact hsucceeded
  refine ⟨?_, ?_, ?_, ?_, ?_⟩
  · rw [hmoved.invoked, List.map_append, List.nodup_append]
    refine ⟨h.once, nodup_invocation .., ?_⟩
    rintro id hold _ hnew rfl
    obtain ⟨call, hcall, rfl⟩ := List.mem_map.mp hold
    obtain ⟨again, hagain, hnode⟩ := List.mem_map.mp hnew
    rw [(invocation_inputs hagain).1] at hnode
    rcases h.called call hcall with hcompleted | ⟨other, hother, heq, hsettled⟩
    · exact hvalid.fresh _ hid (hnode ▸ hcompleted)
    · rw [hsame other hother (heq.trans hnode.symm)] at hsettled
      rw [(hturned.settled hsettled).2] at hagain
      cases hagain
  · intro call hcall
    rw [hmoved.invoked] at hcall
    rw [hmoved.completed]
    rcases List.mem_append.mp hcall with hold | hnew
    · refine (h.called call hold).imp_right ?_
      rintro ⟨other, hother, heq, hsettled⟩
      by_cases hmine : other.node.id = task.node.id
      · rw [hsame other hother hmine] at hsettled
        exact ⟨_, hplace, hmine.symm.trans heq, (hturned.settled hsettled).1⟩
      · obtain ⟨j, hj⟩ := List.mem_iff_getElem?.mp hother
        refine ⟨other, List.mem_iff_getElem?.mpr ⟨j, ?_⟩, heq, hsettled⟩
        rw [hmoved.batch, List.getElem?_set_ne, hj]
        rintro rfl
        exact hmine (by rw [Option.some.inj (hj.symm.trans hmoved.mem)])
    · exact .inr ⟨_, hplace, (invocation_inputs hnew).1.symm, settled_of_invocation hnew⟩
  · intro j k a b key hj hk ha hb
    -- a lock that the task has now it had before, or no task of the batch had it
    have hother : ∀ l other, l ≠ i → s'.batch[l]? = some other → s.batch[l]? = some other := by
      intro l other hne hl
      rwa [hmoved.batch, List.getElem?_set_ne hne.symm] at hl
    have hown : ∀ other, s'.batch[i]? = some other → other.phase = phase := by
      intro other hi
      rw [hmoved.batch, List.getElem?_set_self (List.getElem?_eq_some_iff.mp hmoved.mem).1] at hi
      rw [← Option.some.inj hi]
    have hcross : ∀ l other, l ≠ i → s'.batch[l]? = some other → other.phase.key = some key →
        phase.key = some key → False := by
      intro l other hne hl hkey hphaseKey
      have hold := hother l other hne hl
      rcases hturned.key key hphaseKey with hbefore | hfree
      · exact hne (h.locked l i other task key hold hmoved.mem hkey hbefore)
      · exact hfree (List.mem_map.mpr ⟨other, List.mem_of_getElem? hold, hkey⟩)
    by_cases hji : j = i
    · subst hji
      by_cases hki : k = j
      · exact hki.symm
      · exact (hcross k b hki hk hb (hown a hj ▸ ha)).elim
    · by_cases hki : k = i
      · subst hki
        exact (hcross j a hji hj ha (hown b hk ▸ hb)).elim
      · exact h.locked j k a b key (hother j a hji hj) (hother k b hki hk) ha hb
  · intro other hmem inputs hinputs
    rw [hmoved.batch] at hmem
    rcases List.mem_or_eq_of_mem_set hmem with hold | rfl
    · exact hbatch other hold (h.upstream other hold inputs hinputs)
    · exact hphase inputs hinputs
  · intro call hcall
    rw [hmoved.invoked] at hcall
    rcases List.mem_append.mp hcall with hold | hnew
    · exact (h.succeeded call hold).congr fun edge hedge =>
        hstates _ ((hvalid.invoked call hold).2.2 edge hedge)
    · obtain ⟨hnode, hinputs⟩ := invocation_inputs hnew
      rw [hnode]
      exact hphase _ hinputs

theorem phase_of_mem_tasksOf {ready : List String} (h : task ∈ tasksOf setting ready) :
    task.phase = .queued := by
  obtain ⟨node, -, rfl⟩ := List.mem_map.mp h
  rfl

theorem Exclusive.advance (h : Exclusive setting s) : Exclusive setting (s.advance setting) := by
  obtain ⟨outcome, heq⟩ : ∃ outcome, s.advance setting = _ := advance_eq
  rw [heq]
  refine ⟨h.once, fun call hcall => .inl ?_, fun i j a b key hi _ ha => ?_,
    fun other hmem inputs hinputs => ?_, h.succeeded⟩
  · rcases h.called call hcall with hcompleted | ⟨other, hother, hnode, -⟩
    · exact List.mem_append_left _ hcompleted
    · exact List.mem_append_right _ (List.mem_map.mpr ⟨other, hother, hnode⟩)
  · rw [phase_of_mem_tasksOf (List.mem_of_getElem? hi)] at ha
    cases ha
  · rw [phase_of_mem_tasksOf hmem] at hinputs
    cases hinputs

theorem exclusive_start : Exclusive setting (start setting nodeStates) := by
  refine ⟨List.nodup_nil, fun _ h => absurd h List.not_mem_nil, fun i j a b key hi _ ha => ?_,
    fun other hmem inputs hinputs => ?_, fun _ h => absurd h List.not_mem_nil⟩
  · rw [phase_of_mem_tasksOf (List.mem_of_getElem? hi)] at ha
    cases ha
  · rw [phase_of_mem_tasksOf hmem] at hinputs
    cases hinputs

theorem exclusive_of_reachable (hunique : (setting.nodes.map Node.id).Nodup)
    (hreach : Reachable setting nodeStates s) : Exclusive setting s := by
  induction hreach with
  | start => exact exclusive_start
  | step before hstep ih =>
      rcases step_turned hstep with ⟨i, task, phase, hmoved, hturned⟩ | rfl | ⟨outcome, rfl⟩
      · exact ih.moved (valid_of_reachable hunique before) hmoved hturned
      · exact ih.advance
      · exact ⟨ih.once, ih.called, ih.locked, ih.upstream, ih.succeeded⟩

/-- In every order in which the tasks of a run go on, whatever their executors do, the executor of
a node is called once at most, when every node with an edge into it has succeeded, and two tasks
never hold one runtime lock. -/
theorem executors_called_once (hunique : (setting.nodes.map Node.id).Nodup)
    (hreach : Reachable setting nodeStates s) :
    (s.invoked.map Invocation.nodeId).Nodup ∧
      (∀ call ∈ s.invoked, ∀ edge ∈ incoming setting call.nodeId,
        SourceSucceeded s.nodeStates edge) ∧
      ∀ (i j : ℕ) (a b : Runner.Task) (key : String), s.batch[i]? = some a → s.batch[j]? = some b →
        a.phase.key = some key → b.phase.key = some key → i = j :=
  have h := exclusive_of_reachable hunique hreach
  ⟨h.once, h.succeeded, h.locked⟩

theorem executors_called_once_demo :
    ∃ s, Reachable (demoSetting [edgeToSink "e1" "a"]) pendingNodes s ∧
      (∃ call ∈ s.invoked, call.nodeId = "sink") ∧ (s.invoked.map Invocation.nodeId).Nodup := by
  have hrun : ((demoEvents.foldlM (step (demoSetting [edgeToSink "e1" "a"]))
      (start (demoSetting [edgeToSink "e1" "a"]) pendingNodes)).any
        (sinkFinds "first" "first")) = true := by decide +kernel
  obtain ⟨s, hreach, call, hcall, hnode, -, -⟩ := exists_call_of_sinkFinds hrun
  exact ⟨s, hreach, ⟨call, hcall, hnode⟩, (executors_called_once (by decide) hreach).1⟩

end MindscapeLocalCore.CompositionGraph.Invocations
