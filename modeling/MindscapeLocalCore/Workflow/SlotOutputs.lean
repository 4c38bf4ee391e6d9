import MindscapeLocalCore.Workflow.PlaybookExecution
import MindscapeLocalCore.Workflow.TemplateReferences

/-!
The outputs of a sub-playbook: collected when its run completes, put into the result of the run, and
mapped to the output of the step that called it.
-/

namespace MindscapeLocalCore.Workflow.SlotOutputs

open Library Library.Json Library.JsonPaths PlaybookExecution PlaybookTemplates StepHistory
open TemplateReferences

/-- `d.get(name)` -/
def get (members : Dict) (name : String) : Json := (Dict.get? members name).getD .null

def sourceValue (stepOutputs : String → Option Dict) (sourcePath : List Char) : Option Json :=
  match sourcePath.splitOn '.' with
  | kind :: stepId :: field :: fields =>
      if String.ofList kind = "step" then
        (stepOutputs (String.ofList stepId)).map fun output =>
          get output (String.ofList (List.intercalate ['.'] (field :: fields)))
      else none
  | _ => none

def addOutput (stepOutputs : String → Option Dict) (finalOutputs : Dict)
    (definition : String × String) : Dict :=
  match sourceValue stepOutputs definition.2.toList with
  | some value => finalOutputs.set definition.1 value
  | none => finalOutputs

def collectFinalOutputs (outputDefs : List (String × String)) (stepOutputs : String → Option Dict) :
    Dict :=
  outputDefs.foldl (addOutput stepOutputs) []

def mapSubPlaybookResultToStepOutputs (outputDefs : List (String × String)) (subResult : Dict) :
    Dict :=
  outputDefs.foldl (fun stepOutput (outputName, sourceField) =>
    stepOutput.set outputName (get subResult sourceField)) []

def buildCompletedResult (stepOutputs finalOutputs : Dict) (sandboxId : Option String) : Dict :=
  let result : Dict := [("outputs", .obj finalOutputs), ("status", .str "completed"),
    ("step_outputs", .obj stepOutputs)]
  match sandboxId with
  | some sandbox => if sandbox = "" then result else Dict.set result "sandbox_id" (.str sandbox)
  | none => result

/-! ### Runs -/

/-- What an execution takes up again; a paused step that was approved is one of the completed. -/
structure Checkpoint where
  completedSteps : Finset String
  stepOutputs : List (String × Dict)

/-- `restore_checkpoint_state` -/
def restore (checkpoint : Checkpoint) : Progress Dict where
  completed := checkpoint.completedSteps
  outputs := fun stepId => checkpoint.stepOutputs.lookup stepId
  history := []

/-- `PlaybookJson`, with the source of each declared output. -/
structure PlaybookJson where
  steps : List PlaybookStep
  outputs : List (String × String)

/-- What an execution is asked of, and the result of one that waits at a gate. -/
structure Environment extends Surroundings Dict where
  sandboxId : Option String
  pauseResult : String → Progress Dict → Dict

/-- `step_outputs`, as the execution has filled it. -/
def stepOutputsObject (env : Environment) (checkpoint : Checkpoint) (s : Progress Dict) : Dict :=
  (s.history.filterMap (outcome env.toSurroundings)).foldl
    (fun outputs (stepId, output) => outputs.set stepId (.obj output))
    (checkpoint.stepOutputs.map fun (stepId, output) => (stepId, .obj output))

/-- `execute_playbook_steps`, for `fuel` turns of its loop at most. -/
def executePlaybookSteps (env : Environment) (checkpoint : Checkpoint) (fuel : ℕ)
    (playbook : PlaybookJson) : Option (Except String Dict) :=
  match loop env.toSurroundings playbook.steps fuel (restore checkpoint) with
  | .completed s =>
      some (.ok (buildCompletedResult (stepOutputsObject env checkpoint s)
        (collectFinalOutputs playbook.outputs s.outputs) env.sandboxId))
  | .paused step s => some (.ok (env.pauseResult step s))
  | .raised message _ => some (.error message)
  | .unfinished _ => none

/-- The fields of a step with a `playbook_slot`, whose output mapping is a `dict`. -/
structure SlotStep where
  id : String
  playbookSlot : String
  outputs : List (String × String)
  distinct : (outputs.map Prod.fst).Nodup

def maxDepth : ℕ := 3

/-- `execute_playbook_slot`; none where the sub-playbook does not return. -/
def executePlaybookSlot (enabled : Bool) (currentDepth : ℕ) (step : SlotStep)
    (loadPlaybookJson : String → Option PlaybookJson)
    (execute : PlaybookJson → Option (Except String Dict)) : Option (Except String Dict) :=
  if enabled = false then
    some (.error ("Step '" ++ step.id ++ "' uses playbook_slot '" ++ step.playbookSlot ++
      "' but runtime dispatch is not enabled. Set ENABLE_PLAYBOOK_SLOT_RUNTIME=true to enable."))
  else if maxDepth ≤ currentDepth then
    some (.error ("playbook_slot nesting depth exceeded max=" ++ maxDepth.repr ++ " at step '" ++
      step.id ++ "' -> '" ++ step.playbookSlot ++ "'"))
  else
    match loadPlaybookJson step.playbookSlot with
    | none =>
        some (.error ("Sub-playbook '" ++ step.playbookSlot ++ "' not found for playbook_slot step '" ++
          step.id ++ "'"))
    | some playbook =>
        (execute playbook).map fun result =>
          result.map (mapSubPlaybookResultToStepOutputs step.outputs)

structure SlotRun where
  step : SlotStep
  currentDepth : ℕ
  shallow : currentDepth < maxDepth
  loadPlaybookJson : String → Option PlaybookJson
  playbook : PlaybookJson
  loaded : loadPlaybookJson step.playbookSlot = some playbook
  env : Environment
  checkpoint : Checkpoint
  fuel : ℕ
  progress : Progress Dict
  completed : loop env.toSurroundings playbook.steps fuel (restore checkpoint) = .completed progress

def SlotRun.finalOutputs (run : SlotRun) : Dict :=
  collectFinalOutputs run.playbook.outputs run.progress.outputs

def SlotRun.returned (run : SlotRun) : Option (Except String Dict) :=
  executePlaybookSlot true run.currentDepth run.step run.loadPlaybookJson
    (executePlaybookSteps run.env run.checkpoint run.fuel)

/-- A template that refers to an output of the step resolves to the value, in every state in which
the output is recorded. -/
def Referable (b : Builtins) (stepId name : String) (output : Dict) (value : Json) : Prop :=
  ∀ (values : Values) (idName field : Name), String.ofList idName.chars = stepId →
    String.ofList field.chars = name → values.stepOutputs stepId = some output →
      resolvePlaybookString b values
        (Reference.step idName [field.segment b]).text = some value

def OutputsReach (b : Builtins) (run : SlotRun) : Prop :=
  ∃ output, run.returned = some (.ok output) ∧
    ∀ name source, (name, source) ∈ run.step.outputs →
      Dict.get? output name = some (get run.finalOutputs source) ∧
        Referable b run.step.id name output (get run.finalOutputs source)

/-- The source field of a mapping is one that the result of a run has as the output of that name:
nothing is an output of the other fields. -/
def Carried (finalOutputs : Dict) (sandboxId : Option String) (source : String) : Prop :=
  if source = "status" then get finalOutputs source = .str "completed"
  else if source = "step_outputs" ∨ source = "outputs" then False
  else if source = "sandbox_id" then
    get finalOutputs source = Json.ofOption (sandboxId.filter (· ≠ ""))
  else get finalOutputs source = .null

variable {b : Builtins} {run : SlotRun} {env : Environment} {checkpoint : Checkpoint}
  {output finalOutputs stepOutputs : Dict} {name source : String}

/-! ### What a run keeps -/

section Keeps

variable {α : Type} {env : Surroundings α} {steps : List PlaybookStep} {s s' : Progress α}
  {kept : Progress α → Prop} (hready : ∀ s step, kept s → kept (markReady s step))
  (hskip : ∀ s step, kept s → kept (skip env s step))
  (hrecord : ∀ s step output, kept s → kept (record s step output))
  (hcomplete : ∀ s step, kept s → kept (complete s step))

include hready hskip

theorem getReadySteps_keeps (h : kept s) : kept (getReadySteps env steps s).2 := by
  induction steps generalizing s with
  | nil => exact h
  | cons step rest ih =>
      rw [getReadySteps]
      split
      · exact ih h
      · split
        · split
          · exact ih (hready s step h)
          · exact ih (hskip s step h)
        · exact ih h

omit hready hskip

include hrecord hcomplete

theorem runStep_keeps {step : PlaybookStep} (h : kept s) : kept (runStep env s step).progress := by
  rw [runStep]
  split
  · exact h
  · rename_i output _
    have hrecorded := hrecord s step output h
    split
    · split
      · exact hrecorded
      · split
        · exact hcomplete _ step hrecorded
        · exact hrecorded
    · exact hcomplete _ step hrecorded

theorem runSteps_keeps (h : kept s) : kept (runSteps env steps s).progress := by
  induction steps generalizing s with
  | nil => exact h
  | cons step rest ih =>
      have hstep : kept (runStep env s step).progress := runStep_keeps hrecord hcomplete h
      rw [runSteps]
      cases hflow : runStep env s step with
      | next s' =>
          rw [hflow] at hstep
          exact ih hstep
      | raised message s' =>
          rw [hflow] at hstep
          exact hstep
      | paused stopped s' =>
          rw [hflow] at hstep
          exact hstep

include hready hskip

theorem loop_keeps {fuel : ℕ} (h : kept s) (hloop : loop env steps fuel s = .completed s') :
    kept s' := by
  induction fuel generalizing s with
  | zero =>
      rw [loop] at hloop
      split at hloop
      · cases hloop
      · cases hloop
        exact h
  | succ fuel ih =>
      rw [loop] at hloop
      split at hloop
      · have hscanned : kept (getReadySteps env steps s).2 := getReadySteps_keeps hready hskip h
        have hran := @runSteps_keeps _ env (getReadySteps env steps s).1 _ _ hrecord hcomplete
          hscanned
        dsimp only at hloop
        split at hloop
        · cases hloop
        · split at hloop
          · rename_i hflow
            rw [hflow] at hran
            exact ih hran hloop
          · cases hloop
          · cases hloop
      · cases hloop
        exact h

end Keeps

/-- The object of the outputs has what the outputs have. -/
def Tracked (env : Environment) (checkpoint : Checkpoint) (s : Progress Dict) : Prop :=
  ∀ stepId, Dict.get? (stepOutputsObject env checkpoint s) stepId = (s.outputs stepId).map .obj

theorem stepOutputsObject_append {s : Progress Dict} {event : Event Dict} {next : Progress Dict}
    (h : next.history = s.history ++ [event]) :
    stepOutputsObject env checkpoint next =
      match outcome env.toSurroundings event with
      | none => stepOutputsObject env checkpoint s
      | some (stepId, output) =>
          Dict.set (stepOutputsObject env checkpoint s) stepId (.obj output) := by
  rw [stepOutputsObject, h, List.filterMap_append, List.foldl_append]
  cases hevent : outcome env.toSurroundings event with
  | none =>
      rw [List.filterMap_cons_none hevent]
      rfl
  | some concluded =>
      rw [List.filterMap_cons_some hevent]
      rfl

theorem tracked_restore : Tracked env checkpoint (restore checkpoint) := by
  intro stepId
  show Dict.get? (checkpoint.stepOutputs.map fun (stepId, output) => (stepId, Json.obj output))
    stepId = (checkpoint.stepOutputs.lookup stepId).map .obj
  induction checkpoint.stepOutputs with
  | nil => rfl
  | cons entry rest ih =>
      obtain ⟨key, output⟩ := entry
      rw [List.map_cons, Dict.get?_cons, List.lookup_cons]
      by_cases hkey : stepId = key
      · rw [if_pos hkey, beq_iff_eq.mpr hkey]
        rfl
      · rw [if_neg hkey, beq_eq_false_iff_ne.mpr hkey]
        exact ih

theorem Tracked.update {s next : Progress Dict} {event : Event Dict} {stepId : String}
    (h : Tracked env checkpoint s) (hhistory : next.history = s.history ++ [event])
    (hevent : outcome env.toSurroundings event = some (stepId, output))
    (houtputs : next.outputs = Function.update s.outputs stepId (some output)) :
    Tracked env checkpoint next := by
  intro other
  rw [stepOutputsObject_append hhistory, hevent, houtputs]
  show Dict.get? (Dict.set _ stepId (.obj output)) other = _
  rw [Dict.get?_set]
  by_cases hother : other = stepId
  · rw [if_pos hother, hother, Function.update_self]
    rfl
  · rw [if_neg hother, Function.update_of_ne hother]
    exact h other

theorem SlotRun.tracked (run : SlotRun) : Tracked run.env run.checkpoint run.progress := by
  refine @loop_keeps _ _ _ _ _ (Tracked run.env run.checkpoint) ?_ ?_ ?_ ?_ _ tracked_restore
    run.completed
  · intro s step h stepId
    rw [@stepOutputsObject_append _ _ s (.ready step.id) (markReady s step) rfl]
    exact h stepId
  · intro s step h
    exact @Tracked.update _ _ _ s (skip run.env.toSurroundings s step) (.skipped step.id) step.id h
      rfl rfl rfl
  · intro s step output h
    exact @Tracked.update _ _ _ s (record s step output) (.executed step.id output) step.id h
      rfl rfl rfl
  · intro s step h
    exact h

/-! ### Values -/

section Collected

variable {stepOutputs : String → Option Dict} {value : Json}

theorem eq_of_sourceValue {sourcePath : List Char}
    (h : sourceValue stepOutputs sourcePath = some value) : value = .null ∨
      ∃ stepId output field, stepOutputs stepId = some output ∧
        Dict.get? output field = some value := by
  rw [sourceValue] at h
  split at h
  · rename_i kind stepId field fields _
    split at h
    · obtain ⟨output, houtput, rfl⟩ := Option.map_eq_some_iff.mp h
      rw [get]
      cases hget : Dict.get? output (String.ofList (List.intercalate ['.'] (field :: fields))) with
      | none => exact .inl rfl
      | some found => exact .inr ⟨_, output, _, houtput, hget⟩
    · cases h
  · cases h

theorem forall_collected {kept : Json → Prop}
    (hkept : ∀ sourcePath value, sourceValue stepOutputs sourcePath = some value → kept value)
    (outputDefs : List (String × String))
    (h : Dict.get? (collectFinalOutputs outputDefs stepOutputs) name = some value) : kept value := by
  have hfold : ∀ (defs : List (String × String)) (collected : Dict),
      (∀ name value, Dict.get? collected name = some value → kept value) →
      ∀ name value, Dict.get? (defs.foldl (addOutput stepOutputs) collected) name = some value →
        kept value := by
    intro defs
    induction defs with
    | nil => exact fun collected hcollected => hcollected
    | cons definition defs ih =>
        intro collected hcollected
        refine ih _ ?_
        rw [addOutput]
        split
        · rename_i found hfound
          intro name value hvalue
          rw [Dict.get?_set] at hvalue
          split at hvalue
          · rw [← Option.some.inj hvalue]
            exact hkept _ _ hfound
          · exact hcollected name value hvalue
        · exact hcollected
  exact hfold outputDefs [] nofun name value h

theorem get?_collectFinalOutputs {outputDefs : List (String × String)} {sourcePath : String}
    (hdistinct : (outputDefs.map Prod.fst).Nodup) (h : (name, sourcePath) ∈ outputDefs) :
    Dict.get? (collectFinalOutputs outputDefs stepOutputs) name =
      sourceValue stepOutputs sourcePath.toList := by
  have hfold : ∀ (defs : List (String × String)) (collected : Dict),
      (defs.map Prod.fst).Nodup →
      Dict.get? (defs.foldl (addOutput stepOutputs) collected) name =
        match defs.lookup name with
        | some sourcePath =>
            (sourceValue stepOutputs sourcePath.toList).or (Dict.get? collected name)
        | none => Dict.get? collected name := by
    intro defs
    induction defs with
    | nil => exact fun collected _ => rfl
    | cons definition defs ih =>
        obtain ⟨key, path⟩ := definition
        intro collected hnodup
        obtain ⟨hkey, hnodup⟩ := List.nodup_cons.mp hnodup
        rw [List.foldl_cons, ih _ hnodup, List.lookup_cons]
        by_cases hname : name = key
        · have hnone : defs.lookup name = none := by
            rw [List.lookup_eq_none_iff]
            intro entry hentry
            rw [bne_iff_ne, hname]
            rintro rfl
            exact hkey (List.mem_map.mpr ⟨entry, hentry, rfl⟩)
          rw [hnone, beq_iff_eq.mpr hname, addOutput]
          dsimp only
          cases sourceValue stepOutputs path.toList with
          | none => rfl
          | some found =>
              rw [hname]
              exact Dict.get?_set_self collected key found
        · have hkept : Dict.get? (addOutput stepOutputs collected (key, path)) name =
              Dict.get? collected name := by
            rw [addOutput]
            cases sourceValue stepOutputs path.toList with
            | none => rfl
            | some found => exact Dict.get?_set_of_ne collected found hname
          rw [hkept, beq_eq_false_iff_ne.mpr hname]
  have hlookup : outputDefs.lookup name = some sourcePath := by
    obtain ⟨before, after, rfl⟩ := List.append_of_mem h
    refine List.lookup_eq_some_iff.mpr ⟨before, after, rfl, fun entry hentry => ?_⟩
    rw [List.map_append, List.map_cons, List.nodup_append] at hdistinct
    rw [bne_iff_ne]
    exact (hdistinct.2.2 _ (List.mem_map_of_mem hentry) _ List.mem_cons_self).symm
  have hget := hfold outputDefs [] hdistinct
  rw [hlookup] at hget
  exact hget.trans (Option.or_none)

end Collected

theorem SlotRun.get_ne_stepOutputs (run : SlotRun) (name : String) :
    get run.finalOutputs name ≠ .obj (stepOutputsObject run.env run.checkpoint run.progress) := by
  rw [get]
  cases hget : Dict.get? run.finalOutputs name with
  | none => nofun
  | some value =>
      rcases forall_collected (fun _ _ h => eq_of_sourceValue h) run.playbook.outputs hget with
        rfl | ⟨stepId, output, field, houtput, hfield⟩
      · nofun
      · have hobject := run.tracked stepId
        rw [houtput, Option.map_some] at hobject
        -- The value is two levels below the object.
        have hfollow : follow (.obj (stepOutputsObject run.env run.checkpoint run.progress))
            [.key stepId, .key field] = some value := by
          rw [follow_cons]
          show (Dict.get? _ stepId).bind _ = _
          rw [hobject]
          show (Dict.get? output field).bind _ = _
          rw [hfield]
          rfl
        exact ne_of_follow hfollow

theorem get_ne_self (members : Dict) (name : String) : get members name ≠ .obj members := by
  rw [get]
  cases hget : Dict.get? members name with
  | none => nofun
  | some value =>
      have hfollow : follow (.obj members) [.key name] = some value := by
        rw [follow_cons]
        show (Dict.get? members name).bind _ = _
        rw [hget]
        rfl
      exact ne_of_follow hfollow

theorem get_buildCompletedResult {sandboxId : Option String} :
    get (buildCompletedResult stepOutputs finalOutputs sandboxId) source =
      if source = "status" then .str "completed"
      else if source = "step_outputs" then .obj stepOutputs
      else if source = "outputs" then .obj finalOutputs
      else if source = "sandbox_id" then Json.ofOption (sandboxId.filter (· ≠ ""))
      else .null := by
  have hresult : ∀ result : Dict, result = [("outputs", .obj finalOutputs),
      ("status", .str "completed"), ("step_outputs", .obj stepOutputs)] →
      get result source =
        if source = "status" then .str "completed"
        else if source = "step_outputs" then .obj stepOutputs
        else if source = "outputs" then .obj finalOutputs
        else .null := by
    rintro result rfl
    rw [get, Dict.get?_cons, Dict.get?_cons, Dict.get?_cons, Dict.get?_nil]
    split_ifs <;> simp_all
  by_cases hsandbox : source = "sandbox_id"
  · subst hsandbox
    rw [if_neg (by decide), if_neg (by decide), if_neg (by decide), if_pos rfl,
      buildCompletedResult.eq_def]
    cases sandboxId with
    | none => exact hresult _ rfl
    | some sandbox =>
        dsimp only
        by_cases hempty : sandbox = ""
        · rw [if_pos hempty, hresult _ rfl, hempty]
          rfl
        · rw [if_neg hempty, get, Dict.get?_set_self, Option.filter_some]
          simp [hempty]
  · rw [if_neg hsandbox, ← hresult _ rfl, buildCompletedResult.eq_def]
    cases sandboxId with
    | none => rfl
    | some sandbox =>
        dsimp only
        split
        · rfl
        · rw [get, Dict.get?_set_of_ne _ _ hsandbox, get]

theorem SlotRun.get_result_iff (run : SlotRun) (source : String) :
    get (buildCompletedResult (stepOutputsObject run.env run.checkpoint run.progress)
        run.finalOutputs run.env.sandboxId) source = get run.finalOutputs source ↔
      Carried run.finalOutputs run.env.sandboxId source := by
  rw [get_buildCompletedResult, Carried]
  by_cases hstatus : source = "status"
  · rw [if_pos hstatus, if_pos hstatus]
    exact eq_comm
  · rw [if_neg hstatus, if_neg hstatus]
    by_cases hsteps : source = "step_outputs"
    · rw [if_pos hsteps, if_pos (.inl hsteps)]
      exact iff_of_false (run.get_ne_stepOutputs source).symm id
    · rw [if_neg hsteps]
      by_cases houtputs : source = "outputs"
      · rw [if_pos houtputs, if_pos (.inr houtputs)]
        exact iff_of_false (get_ne_self run.finalOutputs source).symm id
      · rw [if_neg houtputs, if_neg (not_or.mpr ⟨hsteps, houtputs⟩)]
        split
        · exact eq_comm
        · exact eq_comm

/-! ### The caller -/

theorem get?_mapSubPlaybookResult {outputDefs : List (String × String)} {subResult : Dict}
    (hdistinct : (outputDefs.map Prod.fst).Nodup) (h : (name, source) ∈ outputDefs) :
    Dict.get? (mapSubPlaybookResultToStepOutputs outputDefs subResult) name =
      some (get subResult source) := by
  have hupdate : mapSubPlaybookResultToStepOutputs outputDefs subResult =
      Dict.update [] (outputDefs.map fun entry => (entry.1, get subResult entry.2)) := by
    rw [Dict.update, List.foldl_map]
    rfl
  rw [hupdate]
  refine Dict.get?_update_of_forall ?_ fun value hvalue => ?_
  · rw [List.map_map]
    exact List.mem_map.mpr ⟨(name, source), h, rfl⟩
  · obtain ⟨entry, hentry, hsame⟩ := List.mem_map.mp hvalue
    obtain ⟨hname, rfl⟩ := Prod.mk.inj hsame
    rw [List.inj_on_of_nodup_map hdistinct hentry h hname]

theorem referable_of_get? {stepId : String} {value : Json}
    (h : Dict.get? output name = some value) : Referable b stepId name output value := by
  rintro values idName field rfl rfl hrecorded
  have hnil : Blank [] := fun c hc => absurd hc List.not_mem_nil
  have hresolve := @resolve_alone b values (Reference.step idName [field.segment b]) [] []
    hnil hnil
  rw [List.nil_append, List.append_nil] at hresolve
  have houtput : outputOf values idName.chars = output := by
    rw [outputOf, hrecorded]
    rfl
  have hvalueAt : valueAt (.obj output) [field.segment b] = some value := by
    show (Dict.get? output (String.ofList field.chars)).bind _ = _
    rw [h]
    rfl
  rw [hresolve, resolveExact_step, houtput]
  exact walk_of_valueAt hvalueAt

theorem SlotRun.returned_eq (run : SlotRun) : run.returned = some (.ok
    (mapSubPlaybookResultToStepOutputs run.step.outputs
      (buildCompletedResult (stepOutputsObject run.env run.checkpoint run.progress)
        run.finalOutputs run.env.sandboxId))) := by
  rw [SlotRun.returned, executePlaybookSlot, if_neg Bool.true_eq_false.mp,
    if_neg (Nat.not_le.mpr run.shallow), run.loaded]
  dsimp only
  rw [executePlaybookSteps, run.completed]
  rfl

theorem SlotRun.get?_returned (run : SlotRun) (h : run.returned = some (.ok output))
    (hmem : (name, source) ∈ run.step.outputs) :
    Dict.get? output name = some (get (buildCompletedResult
      (stepOutputsObject run.env run.checkpoint run.progress) run.finalOutputs run.env.sandboxId)
        source) := by
  rw [run.returned_eq] at h
  obtain rfl := Except.ok.inj (Option.some.inj h)
  exact get?_mapSubPlaybookResult run.step.distinct hmem

theorem OutputsReach.carried (h : OutputsReach b run) (hmem : (name, source) ∈ run.step.outputs) :
    Carried run.finalOutputs run.env.sandboxId source := by
  obtain ⟨output, houtput, hreach⟩ := h
  have hget := (hreach name source hmem).1
  rw [run.get?_returned houtput hmem] at hget
  exact (run.get_result_iff source).mp (Option.some.inj hget)

/-- The outputs of a sub-playbook reach the caller exactly where every source of the mapping is
carried by the result of the run. -/
theorem outputsReach_iff (b : Builtins) (run : SlotRun) :
    OutputsReach b run ↔
      ∀ name source, (name, source) ∈ run.step.outputs →
        Carried run.finalOutputs run.env.sandboxId source := by
  constructor
  · exact fun h name source => h.carried
  · intro hcarried
    refine ⟨_, run.returned_eq, fun name source hmem => ?_⟩
    have hget := (run.get?_returned run.returned_eq hmem).trans
      (congrArg some ((run.get_result_iff source).mpr (hcarried name source hmem)))
    exact ⟨hget, referable_of_get? hget⟩

def reportRun : SlotRun where
  step := ⟨"dispatch_sub", "sub_playbook", [("summary", "report")], by decide⟩
  currentDepth := 0
  shallow := by decide
  loadPlaybookJson := fun _ => some ⟨[⟨"make", [], none, false⟩], [("report", "step.make.report")]⟩
  playbook := ⟨[⟨"make", [], none, false⟩], [("report", "step.make.report")]⟩
  loaded := rfl
  env :=
    { evaluateCondition := fun _ _ _ => true
      executeStep := fun _ _ => .ok [("report", .str "ok")]
      gateAction := fun _ => none
      skipOutput := [("reason", .str "condition_not_met"), ("status", .str "skipped")]
      sandboxId := none
      pauseResult := fun _ _ => [] }
  checkpoint := ⟨∅, []⟩
  fuel := 1
  progress := ⟨{"make"}, Function.update (fun _ => none) "make" (some [("report", .str "ok")]),
    [.ready "make", .executed "make" [("report", .str "ok")]]⟩
  completed := rfl

theorem get_reportRun : get reportRun.finalOutputs "report" = .str "ok" := by
  rfl

/-- The mapping that the tests of the slot use does not get the output of a run. -/
theorem reportRun_not_outputsReach : ¬ OutputsReach asciiBuiltins reportRun := by
  intro h
  have hcarried : Carried reportRun.finalOutputs none "report" := h.carried List.mem_cons_self
  rw [Carried, if_neg (by decide), if_neg (by decide), if_neg (by decide), get_reportRun] at hcarried
  cases hcarried

end MindscapeLocalCore.Workflow.SlotOutputs
