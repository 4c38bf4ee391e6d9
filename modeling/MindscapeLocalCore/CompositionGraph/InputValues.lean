import MindscapeLocalCore.CompositionGraph.Runner

/-!
What reaches an executor of the values that the edges into its node carry.
-/

namespace MindscapeLocalCore.CompositionGraph.InputValues

open Library Library.ItemDict Values Graph Runner

variable {setting : Setting} {nodeStates states states' : String → Option NodeState}
  {s s' : RunState} {event : Event} {i : ℕ} {task : Task} {phase : Phase}

/-! ### The values of edges -/

def SourcesKnown (states : String → Option NodeState) (edges : List Edge) : Prop :=
  ∀ edge ∈ edges, ∃ value, carried states edge = some value

theorem inputValues_congr {edges : List Edge}
    (h : ∀ edge ∈ edges, states edge.source = states' edge.source) :
    inputValues states edges = inputValues states' edges := by
  refine List.foldl_ext _ _ _ fun values edge hedge => ?_
  rw [carried, carried, h edge hedge]

theorem getItem_inputValues {edges : List Edge} (hknown : SourcesKnown states edges) :
    ∀ edge ∈ edges, ∃ last ∈ edges, last.targetPort = edge.targetPort ∧
      getItem edge.targetPort (inputValues states edges) = carried states last := by
  induction edges using List.reverseRecOn with
  | nil =>
      intro edge hedge
      cases hedge
  | append_singleton edges new ih =>
      intro edge hedge
      obtain ⟨value, hvalue⟩ := hknown new (List.mem_append_right _ (List.mem_singleton_self new))
      have hinputs : inputValues states (edges ++ [new]) =
          setItem new.targetPort value (inputValues states edges) := by
        rw [inputValues, List.foldl_concat, hvalue]
        rfl
      rw [hinputs, getItem_setItem]
      by_cases hport : edge.targetPort = new.targetPort
      · rw [if_pos hport]
        exact ⟨new, List.mem_append_right _ (List.mem_singleton_self new), hport.symm, hvalue.symm⟩
      · rw [if_neg hport]
        have hmem : edge ∈ edges := by
          refine (List.mem_append.mp hedge).resolve_right fun hlast => hport ?_
          rw [List.mem_singleton.mp hlast]
        obtain ⟨last, hlast, hsame, hget⟩ :=
          ih (fun edge hedge => hknown edge (List.mem_append_left _ hedge)) edge hmem
        exact ⟨last, List.mem_append_left _ hlast, hsame, hget⟩

theorem inputValues_complete_iff {edges : List Edge} (hknown : SourcesKnown states edges) :
    (∀ edge ∈ edges, ∃ value, carried states edge = some value ∧
        getItem edge.targetPort (inputValues states edges) = some value) ↔
      ∀ edge ∈ edges, ∀ other ∈ edges, edge.targetPort = other.targetPort →
        carried states edge = carried states other := by
  constructor
  · intro hcomplete edge hedge other hother hport
    obtain ⟨value, hvalue, hget⟩ := hcomplete edge hedge
    obtain ⟨otherValue, hotherValue, hotherGet⟩ := hcomplete other hother
    rw [hport, hotherGet] at hget
    rw [hvalue, hotherValue, hget]
  · intro hagree edge hedge
    obtain ⟨value, hvalue⟩ := hknown edge hedge
    obtain ⟨last, hlast, hport, hget⟩ := getItem_inputValues hknown edge hedge
    refine ⟨value, hvalue, ?_⟩
    rw [hget, hagree last hlast edge hedge hport, hvalue]

theorem carried_of_sourceSucceeded {edge : Edge} (h : SourceSucceeded states edge) :
    ∃ value, carried states edge = some value := by
  obtain ⟨state, hstate, -⟩ := h
  exact ⟨_, by rw [carried, Option.mem_def.mp hstate]; rfl⟩

theorem firstFailedUpstream_eq_none {edges : List Edge} :
    firstFailedUpstream states edges = none ↔ ∀ edge ∈ edges, SourceSucceeded states edge := by
  rw [firstFailedUpstream, Option.map_eq_none_iff, List.find?_eq_none]
  simp only [decide_eq_true_eq, not_not]

/-! ### What a step does -/

def inputsOf : Phase → Option (List (String × Value))
  | .locking _ inputs => some inputs
  | .starting _ inputs => some inputs
  | .calling _ inputs => some inputs
  | _ => none

structure Moved (setting : Setting) (s s' : RunState) (i : ℕ) (task : Task) (phase : Phase) :
    Prop where
  mem : s.batch[i]? = some task
  batch : s'.batch = s.batch.set i ⟨task.node, phase⟩
  degree : s'.degree = s.degree
  completed : s'.completed = s.completed
  invoked : s'.invoked = s.invoked ++ phase.invocation task.node.id
  nodeStates : ∀ id, id ≠ task.node.id → s'.nodeStates id = s.nodeStates id
  inputs : ∀ inputs, inputsOf phase = some inputs → inputsOf task.phase = some inputs ∨
    inputs = inputValues s.nodeStates (incoming setting task.node.id) ∧
      ∀ edge ∈ incoming setting task.node.id, SourceSucceeded s.nodeStates edge

theorem inputsOf_beginNode {node : Node} {inputs : List (String × Value)}
    (h : inputsOf (beginNode setting states node) = some inputs) :
    inputs = inputValues states (incoming setting node.id) ∧
      ∀ edge ∈ incoming setting node.id, SourceSucceeded states edge := by
  rw [beginNode] at h
  split at h
  · cases h
  · rename_i hupstream
    refine ⟨?_, firstFailedUpstream_eq_none.mp hupstream⟩
    split at h
    · cases h
    · split at h
      · cases h
      · split at h
        · exact (Option.some.inj h).symm
        · split at h
          · cases h
          · split at h
            · exact (Option.some.inj h).symm
            · exact (Option.some.inj h).symm

theorem inputsOf_nextUpdate {node : Node} {phase next : Phase} {update : Update}
    {inputs : List (String × Value)} (h : nextUpdate node phase = some (update, next))
    (hinputs : inputsOf next = some inputs) : inputsOf phase = some inputs := by
  cases phase with
  | starting key inputs' =>
      obtain ⟨-, rfl⟩ := Prod.mk.inj (Option.some.inj h)
      exact hinputs
  | skipping inputs' upstream | referring inputs' | referred | unknown inputs' | ending key result =>
      obtain ⟨-, rfl⟩ := Prod.mk.inj (Option.some.inj h)
      cases hinputs
  | queued | locking key inputs' | calling key inputs' | done | raised text => cases h

theorem setNodeState_of_ne {nodeId id : String} {update : Update}
    (h : setNodeState setting states nodeId update = .ok states') (hne : id ≠ nodeId) :
    states' id = states id := by
  rw [setNodeState] at h
  split at h
  · cases h
  · obtain ⟨outputs, -, h⟩ := bind_eq_ok h
    obtain rfl := Except.ok.inj h
    exact Function.update_of_ne hne _ _

theorem moved_setPhase {i : ℕ} {task : Task} {phase : Phase} (hmem : s.batch[i]? = some task)
    (hinputs : ∀ inputs, inputsOf phase = some inputs → inputsOf task.phase = some inputs ∨
      inputs = inputValues s.nodeStates (incoming setting task.node.id) ∧
        ∀ edge ∈ incoming setting task.node.id, SourceSucceeded s.nodeStates edge) :
    Moved setting s (s.setPhase i task phase) i task phase where
  mem := hmem
  batch := rfl
  degree := rfl
  completed := rfl
  invoked := rfl
  nodeStates _ _ := rfl
  inputs := hinputs

/-- The executor was called, or is not called any more. -/
def Settled : Phase → Prop
  | .calling _ _ => True
  | .ending _ _ => True
  | .done => True
  | .raised _ => True
  | _ => False

structure Turned (s : RunState) (task : Task) (phase : Phase) : Prop where
  settled : Settled task.phase → Settled phase ∧ phase.invocation task.node.id = []
  key : ∀ key, phase.key = some key → task.phase.key = some key ∨
    some key ∉ s.batch.map fun other => other.phase.key

theorem turned_of_quiet (hquiet : ¬ Settled task.phase) (hkey : phase.key = none) :
    Turned s task phase :=
  ⟨fun h => absurd h hquiet, fun key h => absurd (hkey.symm.trans h) (by rintro ⟨⟩)⟩

theorem turned_raised (text : String) : Turned s task (.raised text) :=
  ⟨fun _ => ⟨trivial, rfl⟩, fun _ h => by cases h⟩

theorem key_beginNode {states : String → Option NodeState} {node : Node} :
    (beginNode setting states node).key = none := by
  unfold beginNode
  dsimp only
  repeat' split
  all_goals rfl

theorem turned_of_nextUpdate {update : Update}
    (h : nextUpdate task.node task.phase = some (update, phase)) : Turned s task phase := by
  obtain ⟨node, before⟩ := task
  cases before with
  | starting key inputs =>
      obtain ⟨-, rfl⟩ := Prod.mk.inj (Option.some.inj h)
      exact ⟨fun h => h.elim, fun _ h => .inl h⟩
  | ending key result =>
      obtain ⟨-, rfl⟩ := Prod.mk.inj (Option.some.inj h)
      exact ⟨fun _ => ⟨trivial, rfl⟩, fun _ h => by cases h⟩
  | skipping inputs upstream | referring inputs | referred | unknown inputs =>
      obtain ⟨-, rfl⟩ := Prod.mk.inj (Option.some.inj h)
      exact turned_of_quiet id rfl
  | queued | locking key inputs | calling key inputs | done | raised text => cases h

theorem turned_write {update : Update} {failure : Option String} (hmem : s.batch[i]? = some task)
    (hnext : nextUpdate task.node task.phase = some (update, phase)) :
    ∃ reached, Moved setting s (s.write setting i task update phase failure) i task reached ∧
      Turned s task reached := by
  rw [RunState.write]
  split
  · refine ⟨_, moved_setPhase hmem fun inputs hinputs => ?_, turned_raised _⟩
    cases hinputs
  · rename_i states hstates
    have hother : ∀ id, id ≠ task.node.id → states id = s.nodeStates id :=
      fun id hne => setNodeState_of_ne hstates hne
    split
    · exact ⟨phase, ⟨hmem, rfl, rfl, rfl, rfl, hother,
        fun inputs hinputs => .inl (inputsOf_nextUpdate hnext hinputs)⟩, turned_of_nextUpdate hnext⟩
    · refine ⟨_, ⟨hmem, rfl, rfl, rfl, rfl, hother, fun inputs hinputs => ?_⟩, turned_raised _⟩
      cases hinputs

theorem step_turned (h : step setting s event = some s') :
    (∃ i task phase, Moved setting s s' i task phase ∧ Turned s task phase) ∨
      s' = s.advance setting ∨ ∃ outcome, s' = { s with outcome := outcome } := by
  cases event with
  | begin i =>
      rw [step] at h
      split at h
      · rename_i node hmem
        obtain rfl := Option.some.inj h
        exact .inl ⟨i, _, _, moved_setPhase hmem fun inputs hinputs =>
          .inr (inputsOf_beginNode hinputs), turned_of_quiet id key_beginNode⟩
      · cases h
  | acquire i =>
      rw [step] at h
      split at h
      · rename_i node key inputs hmem
        split at h
        · cases h
        · rename_i hfree
          obtain rfl := Option.some.inj h
          refine .inl ⟨i, _, _, moved_setPhase hmem fun inputs hinputs => .inl hinputs,
            ⟨fun h => h.elim, ?_⟩⟩
          rintro _ ⟨⟩
          exact .inr hfree
      · cases h
  | store i failure =>
      rw [step] at h
      split at h
      · cases h
      · rename_i task hmem
        split at h
        · cases h
        · rename_i update phase hnext
          obtain rfl := Option.some.inj h
          obtain ⟨reached, hmoved⟩ : ∃ reached, Moved setting s
              (s.write setting i task update phase failure) i task reached ∧ Turned s task reached :=
            turned_write hmem hnext
          exact .inl ⟨i, task, reached, hmoved⟩
  | answer i result =>
      rw [step] at h
      split at h
      · rename_i node key inputs hmem
        obtain rfl := Option.some.inj h
        refine .inl ⟨i, _, _, moved_setPhase hmem fun inputs hinputs => ?_,
          ⟨fun _ => ⟨trivial, rfl⟩, fun _ h => .inl h⟩⟩
        cases hinputs
      · cases h
  | next =>
      rw [step] at h
      split at h
      · exact .inr (.inl (Option.some.inj h).symm)
      · cases h
  | fail =>
      rw [step] at h
      split at h
      · split at h
        · cases h
        · exact .inr (.inr ⟨_, (Option.some.inj h).symm⟩)
      · cases h

theorem step_cases (h : step setting s event = some s') :
    (∃ i task phase, Moved setting s s' i task phase) ∨ s' = s.advance setting ∨
      ∃ outcome, s' = { s with outcome := outcome } :=
  (step_turned h).imp_left fun ⟨i, task, phase, hmoved, _⟩ => ⟨i, task, phase, hmoved⟩

/-! ### What every step keeps -/

def ids (batch : List Task) : List String := batch.map fun task => task.node.id

/-- The edges to a node from nodes that are not completed. -/
abbrev waitsFor (setting : Setting) (completed : List String) (nodeId : String) : List Edge :=
  InDegrees.pending Edge.source Edge.target (runEdges setting) completed nodeId

/-- The inputs are what the edges into the node carry, from nodes that are completed. -/
def Captured (setting : Setting) (s : RunState) (nodeId : String)
    (inputs : List (String × Value)) : Prop :=
  inputs = inputValues s.nodeStates (incoming setting nodeId) ∧
    SourcesKnown s.nodeStates (incoming setting nodeId) ∧
    ∀ edge ∈ incoming setting nodeId, edge.source ∈ s.completed

/-- The nodes of the batch are new and wait for no other; what tasks have and what executors were
called with is what the edges carry. -/
structure Valid (setting : Setting) (s : RunState) : Prop where
  degree : ∀ id, s.degree id = (waitsFor setting s.completed id).length
  nodup : (ids s.batch).Nodup
  fresh : ∀ id ∈ ids s.batch, id ∉ s.completed
  ready : ∀ id ∈ ids s.batch, waitsFor setting s.completed id = []
  closed : ∀ id ∈ s.completed, waitsFor setting s.completed id = []
  captured : ∀ task ∈ s.batch, ∀ inputs, inputsOf task.phase = some inputs →
    Captured setting s task.node.id inputs
  invoked : ∀ call ∈ s.invoked, Captured setting s call.nodeId call.inputValues

theorem mem_incoming {edge : Edge} {nodeId : String} :
    edge ∈ incoming setting nodeId ↔ edge ∈ runEdges setting ∧ edge.target = nodeId := by
  rw [incoming, List.mem_filter, decide_eq_true_eq]

theorem completed_of_waitsFor {completed : List String} {nodeId : String}
    (h : waitsFor setting completed nodeId = []) :
    ∀ edge ∈ incoming setting nodeId, edge.source ∈ completed := by
  intro edge hedge
  obtain ⟨hmem, htarget⟩ := mem_incoming.mp hedge
  exact InDegrees.pending_eq_nil_iff.mp h edge hmem htarget

theorem Captured.congr {nodeId : String} {inputs : List (String × Value)}
    (h : Captured setting s nodeId inputs)
    (hstates : ∀ id ∈ s.completed, s'.nodeStates id = s.nodeStates id)
    (hcompleted : ∀ id ∈ s.completed, id ∈ s'.completed) : Captured setting s' nodeId inputs := by
  obtain ⟨rfl, hknown, hsources⟩ := h
  have hsame : ∀ edge ∈ incoming setting nodeId,
      s.nodeStates edge.source = s'.nodeStates edge.source := by
    intro edge hedge
    rw [hstates _ (hsources edge hedge)]
  refine ⟨inputValues_congr hsame, fun edge hedge => ?_,
    fun edge hedge => hcompleted _ (hsources edge hedge)⟩
  rw [carried, ← hsame edge hedge]
  exact hknown edge hedge

theorem invocation_inputs {nodeId : String} {phase : Phase} {call : Invocation}
    (h : call ∈ phase.invocation nodeId) :
    call.nodeId = nodeId ∧ inputsOf phase = some call.inputValues := by
  cases phase with
  | calling key inputs =>
      obtain rfl := List.mem_singleton.mp h
      exact ⟨rfl, rfl⟩
  | queued | skipping inputs upstream | referring inputs | referred | unknown inputs
  | locking key inputs | starting key inputs | ending key result | done | raised text => cases h

theorem map_set_of_getElem? {α β : Type} {l : List α} {f : α → β} {i : ℕ} {a b : α}
    (h : l[i]? = some a) (hf : f b = f a) : (l.set i b).map f = l.map f := by
  obtain ⟨hi, rfl⟩ := List.getElem?_eq_some_iff.mp h
  have hi' : i < (l.map f).length := by
    rw [List.length_map]
    exact hi
  have hget : (l.map f)[i] = f l[i] := List.getElem_map f
  rw [List.map_set, hf, ← hget]
  exact List.set_getElem_self hi'

theorem Valid.moved {i : ℕ} {task : Task} {phase : Phase} (h : Valid setting s)
    (hmoved : Moved setting s s' i task phase) : Valid setting s' := by
  have htask : task ∈ s.batch := List.mem_of_getElem? hmoved.mem
  have hid : task.node.id ∈ ids s.batch := List.mem_map.mpr ⟨task, htask, rfl⟩
  have hids : ids s'.batch = ids s.batch := by
    rw [ids, hmoved.batch]
    exact map_set_of_getElem? hmoved.mem rfl
  -- the nodes that are completed keep their states
  have hstates : ∀ id ∈ s.completed, s'.nodeStates id = s.nodeStates id := by
    intro id hmem
    refine hmoved.nodeStates id ?_
    rintro rfl
    exact h.fresh _ hid hmem
  have hcompleted : ∀ id ∈ s.completed, id ∈ s'.completed := by
    intro id hmem
    rw [hmoved.completed]
    exact hmem
  have hphase : ∀ inputs, inputsOf phase = some inputs →
      Captured setting s' task.node.id inputs := by
    intro inputs hinputs
    refine Captured.congr ?_ hstates hcompleted
    rcases hmoved.inputs inputs hinputs with hbefore | ⟨rfl, hsucceeded⟩
    · exact h.captured task htask inputs hbefore
    · exact ⟨rfl, fun edge hedge => carried_of_sourceSucceeded (hsucceeded edge hedge),
        completed_of_waitsFor (h.ready _ hid)⟩
  refine ⟨?_, ?_, ?_, ?_, ?_, ?_, ?_⟩
  · rw [hmoved.degree, hmoved.completed]
    exact h.degree
  · rw [hids]
    exact h.nodup
  · rw [hids, hmoved.completed]
    exact h.fresh
  · rw [hids, hmoved.completed]
    exact h.ready
  · rw [hmoved.completed]
    exact h.closed
  · intro other hother inputs hinputs
    rw [hmoved.batch] at hother
    rcases List.mem_or_eq_of_mem_set hother with hold | rfl
    · exact (h.captured other hold inputs hinputs).congr hstates hcompleted
    · exact hphase inputs hinputs
  · intro call hcall
    rw [hmoved.invoked] at hcall
    rcases List.mem_append.mp hcall with hold | hnew
    · exact (h.invoked call hold).congr hstates hcompleted
    · obtain ⟨hnode, hinputs⟩ := invocation_inputs hnew
      rw [hnode]
      exact hphase _ hinputs

theorem id_of_findNode {nodeId : String} {node : Node} (h : findNode setting nodeId = some node) :
    node.id = nodeId := by
  rw [findNode] at h
  have hfound := List.find?_some h
  exact of_decide_eq_true hfound

theorem ids_tasksOf {ready : List String} :
    ids (tasksOf setting ready) = ready.filter fun id => (findNode setting id).isSome := by
  induction ready with
  | nil => rfl
  | cons id rest ih =>
      rw [tasksOf, List.filterMap_cons, List.filter_cons]
      cases hfind : findNode setting id with
      | none => exact ih
      | some node =>
          show node.id :: ids (tasksOf setting rest) = id :: _
          rw [id_of_findNode hfind, ih]

theorem inputsOf_of_mem_tasksOf {ready : List String} {task : Task}
    (h : task ∈ tasksOf setting ready) : inputsOf task.phase = none := by
  obtain ⟨node, -, rfl⟩ := List.mem_map.mp h
  rfl

def discharged (setting : Setting) (s : RunState) : (String → ℤ) × List String :=
  InDegrees.discharge ((ids s.batch).flatMap
    (InDegrees.targetsOf Edge.source Edge.target (runEdges setting))) (s.degree, [])

theorem advance_eq : ∃ outcome, s.advance setting =
    { nodeStates := s.nodeStates
      degree := (discharged setting s).1
      batch := tasksOf setting (discharged setting s).2
      completed := s.completed ++ ids s.batch
      invoked := s.invoked
      outcome := outcome } := by
  show ∃ outcome, (if (discharged setting s).2 = [] then _ else _ : RunState) = _
  split
  · exact ⟨_, rfl⟩
  · exact ⟨_, rfl⟩

theorem Valid.advance (h : Valid setting s) : Valid setting (s.advance setting) := by
  obtain ⟨hdegree, hnodup, hready⟩ := InDegrees.discharge_pending h.nodup h.fresh h.degree
  obtain ⟨outcome, heq⟩ : ∃ outcome, s.advance setting = _ := advance_eq
  rw [heq]
  have hids : ∀ id ∈ ids (tasksOf setting (discharged setting s).2),
      waitsFor setting s.completed id ≠ [] ∧
        waitsFor setting (s.completed ++ ids s.batch) id = [] := by
    intro id hmem
    rw [ids_tasksOf] at hmem
    exact (hready id).mp (List.mem_of_mem_filter hmem)
  have hclosed : ∀ id ∈ s.completed ++ ids s.batch, waitsFor setting s.completed id = [] := by
    intro id hmem
    rcases List.mem_append.mp hmem with hold | hnew
    · exact h.closed id hold
    · exact h.ready id hnew
  refine ⟨hdegree, ?_, ?_, ?_, ?_, ?_, ?_⟩
  · show (ids (tasksOf setting (discharged setting s).2)).Nodup
    rw [ids_tasksOf]
    exact hnodup.filter _
  · intro id hmem hcompleted
    exact (hids id hmem).1 (hclosed id hcompleted)
  · exact fun id hmem => (hids id hmem).2
  · intro id hmem
    refine InDegrees.pending_eq_nil_iff.mpr fun edge hedge htarget => ?_
    exact List.mem_append_left _
      (InDegrees.pending_eq_nil_iff.mp (hclosed id hmem) edge hedge htarget)
  · intro task htask inputs hinputs
    rw [inputsOf_of_mem_tasksOf htask] at hinputs
    cases hinputs
  · intro call hcall
    exact (h.invoked call hcall).congr (fun _ _ => rfl) fun id hmem => List.mem_append_left _ hmem

theorem Valid.start (hunique : (setting.nodes.map Node.id).Nodup) :
    Valid setting (start setting nodeStates) := by
  have hpending : ∀ id, waitsFor setting [] id = incoming setting id := by
    intro id
    refine List.filter_congr fun edge _ => ?_
    simp
  have hready : ∀ id ∈ ids (Runner.start setting nodeStates).batch, waitsFor setting [] id = [] := by
    intro id hmem
    rw [Runner.start, ids_tasksOf] at hmem
    obtain ⟨-, hzero⟩ := List.mem_filter.mp (List.mem_of_mem_filter hmem)
    rw [hpending]
    exact List.length_eq_zero_iff.mp (Int.ofNat_eq_zero.mp (of_decide_eq_true hzero))
  refine ⟨?_, ?_, ?_, hready, ?_, ?_, ?_⟩
  · intro id
    show inDegree setting id = (waitsFor setting [] id).length
    rw [hpending, inDegree]
  · rw [Runner.start, ids_tasksOf]
    exact (hunique.filter _).filter _
  · intro id _ hmem
    cases hmem
  · intro id hmem
    cases hmem
  · intro task htask inputs hinputs
    rw [inputsOf_of_mem_tasksOf htask] at hinputs
    cases hinputs
  · intro call hcall
    cases hcall

theorem Valid.step (h : Valid setting s) (hstep : step setting s event = some s') :
    Valid setting s' := by
  rcases step_cases hstep with ⟨i, task, phase, hmoved⟩ | rfl | ⟨outcome, rfl⟩
  · exact h.moved hmoved
  · exact h.advance
  · exact ⟨h.degree, h.nodup, h.fresh, h.ready, h.closed, h.captured, h.invoked⟩

theorem valid_of_reachable (hunique : (setting.nodes.map Node.id).Nodup)
    (hreach : Reachable setting nodeStates s) : Valid setting s := by
  induction hreach with
  | start => exact Valid.start hunique
  | step _ hstep ih => exact ih.step hstep

theorem runEdges_eq (hclean : Clean setting.nodes setting.edges) :
    runEdges setting = setting.edges := by
  refine List.filter_eq_self.mpr fun edge hedge => decide_eq_true ?_
  exact ⟨hclean.source edge hedge, hclean.target edge hedge⟩

/-- In every run of a validated graph, an executor finds the value of every edge into its node
under the port of the edge exactly if edges into one port carry one value. -/
theorem inputValues_complete_of_valid {checks : Checks} {selectedPrimaryPack : Option String}
    {requirePrimary : Bool} {contracts : ContractsResponse}
    (hvalid : validateCompositionGraph checks setting.nodes setting.edges selectedPrimaryPack
      requirePrimary contracts = some [])
    (hreach : Reachable setting nodeStates s) :
    ∀ call ∈ s.invoked,
      (∀ edge ∈ setting.edges, edge.target = call.nodeId →
        ∃ value, carried s.nodeStates edge = some value ∧
          getItem edge.targetPort call.inputValues = some value) ↔
      ∀ edge ∈ setting.edges, ∀ other ∈ setting.edges, edge.target = call.nodeId →
        other.target = call.nodeId → edge.targetPort = other.targetPort →
          carried s.nodeStates edge = carried s.nodeStates other := by
  intro call hcall
  have hclean := clean_of_valid hvalid
  obtain ⟨hinputs, hknown, -⟩ := (valid_of_reachable hclean.unique hreach).invoked call hcall
  have hmem : ∀ edge, edge ∈ incoming setting call.nodeId ↔
      edge ∈ setting.edges ∧ edge.target = call.nodeId := by
    intro edge
    rw [mem_incoming, runEdges_eq hclean]
  have hiff := inputValues_complete_iff hknown
  rw [← hinputs] at hiff
  constructor
  · intro hcomplete edge hedge other hother htarget hotherTarget
    exact hiff.mp (fun edge hedge => hcomplete edge ((hmem edge).mp hedge).1
      ((hmem edge).mp hedge).2) edge ((hmem edge).mpr ⟨hedge, htarget⟩) other
      ((hmem other).mpr ⟨hother, hotherTarget⟩)
  · intro hagree edge hedge htarget
    refine hiff.mpr (fun edge hedge other hother => ?_) edge ((hmem edge).mpr ⟨hedge, htarget⟩)
    exact hagree edge ((hmem edge).mp hedge).1 other ((hmem other).mp hother).1
      ((hmem edge).mp hedge).2 ((hmem other).mp hother).2

/-! ### Two edges into one port -/

def plainObjects : Objects where
  truth _ := .ok true
  str _ := .error "not printed"
  list _ := .error "not iterable"
  dict _ := .error "not a mapping"
  validate _ := .error "not a diagnostic"
  diagnostic _ := none
  recursionLimit := 1000

def plainChecks : Checks where
  objectRef _ := none
  payload _ _ := none
  recursionLimit := 1000

def valuePort (required : Bool) : Port where
  id := "value"
  dataType := "text"
  required := required

def demoContracts : ContractsResponse where
  contracts := [{
    capabilityCode := "demo"
    nodeTypes := [
      { id := "demo_source", inputPorts := [], outputPorts := [valuePort false],
        payloadSchema := [] },
      { id := "demo_sink", inputPorts := [valuePort true], outputPorts := [],
        payloadSchema := [] }]
    compiles := true }]
  diagnostics := []

def edgeToSink (id source : String) : Edge where
  id := id
  source := source
  target := "sink"
  sourcePort := "value"
  targetPort := "value"

def demoSetting (edges : List Edge) : Setting where
  workspaceId := "ws"
  nodes := [⟨"a", "demo_source", []⟩, ⟨"b", "demo_source", []⟩, ⟨"sink", "demo_sink", []⟩]
  edges := edges
  providers _ := some ⟨none⟩
  objects := plainObjects

def pendingNodes : String → Option NodeState := fun _ => some {
  status := .pending
  inputValues := []
  outputs := []
  diagnostics := []
  metadata := [] }

def sourceResult (text : String) : Except String Value :=
  .ok (.dict [(.str "outputs", .dict [(.str "value", .str text)])])

/-- Both sources answer, and the executor of the sink is called. -/
def demoEvents : List Event :=
  [.begin 0, .begin 1, .store 0 none, .store 1 none, .answer 1 (sourceResult "second"),
    .answer 0 (sourceResult "first"), .store 0 none, .store 1 none, .next, .begin 0, .store 0 none]

theorem reachable_of_foldlM {events : List Event}
    (hreach : Reachable setting nodeStates s) (h : events.foldlM (step setting) s = some s') :
    Reachable setting nodeStates s' := by
  induction events generalizing s with
  | nil =>
      obtain rfl := Option.some.inj h
      exact hreach
  | cons event rest ih =>
      obtain ⟨middle, hmiddle, hrest⟩ := Option.bind_eq_some_iff.mp h
      exact ih (hreach.step hmiddle) hrest

def isText (text : String) : Option Value → Bool
  | some (.str found) => found == text
  | _ => false

theorem eq_of_isText {text : String} {value : Option Value} (h : isText text value = true) :
    value = some (.str text) := by
  match value, h with
  | some (.str found), h =>
      rw [eq_of_beq h]

/-- The executor of the sink was called with a text, where the edge from `a` carries one. -/
def sinkFinds (found sent : String) (s : RunState) : Bool :=
  isText sent (carried s.nodeStates (edgeToSink "e1" "a")) && s.invoked.any fun call =>
    call.nodeId == "sink" && isText found (getItem "value" call.inputValues)

theorem exists_call_of_sinkFinds {edges : List Edge} {found sent : String}
    (h : ((demoEvents.foldlM (step (demoSetting edges))
      (start (demoSetting edges) pendingNodes)).any (sinkFinds found sent)) = true) :
    ∃ s, Reachable (demoSetting edges) pendingNodes s ∧ ∃ call ∈ s.invoked, call.nodeId = "sink" ∧
      carried s.nodeStates (edgeToSink "e1" "a") = some (.str sent) ∧
      getItem "value" call.inputValues = some (.str found) := by
  obtain ⟨s, hs, hfinds⟩ := (Option.any_eq_true _ _).mp h
  obtain ⟨hsent, hcalled⟩ := Bool.and_eq_true_iff.mp hfinds
  obtain ⟨call, hcall, hboth⟩ := List.any_eq_true.mp hcalled
  obtain ⟨hnode, hfound⟩ := Bool.and_eq_true_iff.mp hboth
  exact ⟨s, reachable_of_foldlM .start hs, call, hcall, eq_of_beq hnode, eq_of_isText hsent,
    eq_of_isText hfound⟩

/-- A graph with two edges into one port is valid, and the value of the first of them does not reach
the executor. -/
theorem fan_in_hides_value :
    let edges := [edgeToSink "e1" "a", edgeToSink "e2" "b"]
    validateCompositionGraph plainChecks (demoSetting edges).nodes edges none false demoContracts =
        some [] ∧
      ∃ s, Reachable (demoSetting edges) pendingNodes s ∧ ∃ call ∈ s.invoked, ∃ edge ∈ edges,
        edge.target = call.nodeId ∧ ¬ ∃ value, carried s.nodeStates edge = some value ∧
          getItem edge.targetPort call.inputValues = some value := by
  refine ⟨rfl, ?_⟩
  have hrun : ((demoEvents.foldlM (step (demoSetting [edgeToSink "e1" "a", edgeToSink "e2" "b"]))
      (start (demoSetting [edgeToSink "e1" "a", edgeToSink "e2" "b"]) pendingNodes)).any
        (sinkFinds "second" "first")) = true := by decide +kernel
  obtain ⟨s, hreach, call, hcall, hnode, hsent, hfound⟩ := exists_call_of_sinkFinds hrun
  refine ⟨s, hreach, call, hcall, _, List.mem_cons_self, hnode.symm, ?_⟩
  rintro ⟨value, hvalue, hget⟩
  rw [hsent] at hvalue
  obtain rfl := Option.some.inj hvalue
  have hsame : some (Value.str "second") = some (Value.str "first") := hfound.symm.trans hget
  have htext : "second" = "first" := Value.str.inj (Option.some.inj hsame)
  exact absurd htext (by decide)

theorem single_edge_reaches :
    ∃ s, Reachable (demoSetting [edgeToSink "e1" "a"]) pendingNodes s ∧ ∃ call ∈ s.invoked,
      call.nodeId = "sink" ∧ ∃ value, carried s.nodeStates (edgeToSink "e1" "a") = some value ∧
        getItem "value" call.inputValues = some value := by
  have hrun : ((demoEvents.foldlM (step (demoSetting [edgeToSink "e1" "a"]))
      (start (demoSetting [edgeToSink "e1" "a"]) pendingNodes)).any
        (sinkFinds "first" "first")) = true := by decide +kernel
  obtain ⟨s, hreach, call, hcall, hnode, -, -⟩ := exists_call_of_sinkFinds hrun
  have hvalid : validateCompositionGraph plainChecks (demoSetting [edgeToSink "e1" "a"]).nodes
      (demoSetting [edgeToSink "e1" "a"]).edges none false demoContracts = some [] := rfl
  refine ⟨s, hreach, call, hcall, hnode, ?_⟩
  refine (inputValues_complete_of_valid hvalid hreach call hcall).mpr ?_ _
    (List.mem_singleton_self _) hnode.symm
  intro edge hedge other hother _ _ _
  rw [List.mem_singleton.mp hedge, List.mem_singleton.mp hother]

end MindscapeLocalCore.CompositionGraph.InputValues
