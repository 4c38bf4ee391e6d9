import MindscapeLocalCore.Workflow.HandoffExecution
import MindscapeLocalCore.Workflow.TemplatePattern

/-!
How a step of a handoff plan gets its inputs: `resolve_workflow_mapping` and
`prepare_workflow_step_inputs`.
-/

namespace MindscapeLocalCore.Workflow.HandoffInputs

open HandoffPlan HandoffExecution TemplatePattern Library Library.Json

variable (words : WordCharacters)

/-- `build_previous_results`: the outputs that are not empty. -/
def buildPreviousResults (results : String → Option StepResult) (code : String) : Option Dict :=
  match results code with
  | none => none
  | some result => if result.outputs = [] then none else some result.outputs

/-- The value that `replace_var` returns. -/
def replaceVar (previous : String → Option Dict) (context : Dict) (m : Match) : Json :=
  if m.kind = "previous".toList then
    match m.second, m.third with
    | some second, some third =>
        if second = "outputs".toList then
          (((previous (String.ofList m.first)).getD []).get? (String.ofList third)).getD
            (.str (String.ofList m.chars))
        else .str (String.ofList m.chars)
    | _, _ => .str (String.ofList m.chars)
  else if m.kind = "context".toList then
    (context.get? (String.ofList m.first)).getD (.str (String.ofList m.chars))
  else .str (String.ofList m.chars)

/-- What `sub` puts for a value that its callback returns: nothing for `None`, and it raises
`TypeError` for anything else that is not a text. -/
def subText : Json → Option (List Char)
  | .null => some []
  | .str text => some text.toList
  | _ => none

def partText (previous : String → Option Dict) (context : Dict) : Token → Option (List Char)
  | .character c => some [c]
  | .reference m => subText (replaceVar previous context m)

/-- `sub` over the parts of the text. -/
def substitute (previous : String → Option Dict) (context : Dict) :
    List Token → Option (List Char)
  | [] => some []
  | part :: rest => do
      let text ← partText previous context part
      let later ← substitute previous context rest
      return text ++ later

/-- `resolve_workflow_mapping`, or nothing where it raises. -/
def resolveWorkflowMapping (previous : String → Option Dict) (context : Dict)
    (mapping : String) : Option String :=
  (substitute previous context (tokens words mapping.toList)).map String.ofList

/-- `prepare_workflow_step_inputs`, or nothing where it raises. -/
def prepareWorkflowStepInputs (step : WorkflowStep) (previous : String → Option Dict)
    (context : Dict) : Option Dict :=
  step.inputMapping.foldlM (fun inputs mapping =>
    (resolveWorkflowMapping words previous context mapping.2).map fun value =>
      inputs.set mapping.1 (.str value)) step.inputs

variable {words} {previous : String → Option Dict} {context : Dict}

theorem substitute_append (earlier later : List Token) :
    substitute previous context (earlier ++ later) = do
      let text ← substitute previous context earlier
      let rest ← substitute previous context later
      return text ++ rest := by
  induction earlier with
  | nil =>
      show _ = (substitute previous context later).bind fun rest => some ([] ++ rest)
      simp
  | cons part earlier ih =>
      rw [List.cons_append, substitute, substitute, ih]
      cases partText previous context part with
      | none => rfl
      | some text =>
          cases substitute previous context earlier with
          | none => rfl
          | some rest =>
              cases substitute previous context later with
              | none => rfl
              | some behind => exact congrArg some (List.append_assoc text rest behind).symm

theorem substitute_ne_none_iff {parts : List Token} :
    substitute previous context parts ≠ none ↔
      ∀ part ∈ parts, partText previous context part ≠ none := by
  induction parts with
  | nil => exact iff_of_true nofun nofun
  | cons part parts ih =>
      rw [List.forall_mem_cons, ← ih, substitute]
      cases partText previous context part with
      | none => exact iff_of_false (absurd rfl) fun hboth => hboth.1 rfl
      | some text =>
          cases substitute previous context parts with
          | none => exact iff_of_false (absurd rfl) fun hboth => hboth.2 rfl
          | some rest => exact iff_of_true nofun ⟨nofun, nofun⟩

theorem get?_foldlM {mappings : List (String × String)} {inputs resolved : Dict}
    (hkeys : (mappings.map Prod.fst).Nodup)
    (h : mappings.foldlM (fun inputs mapping =>
      (resolveWorkflowMapping words previous context mapping.2).map fun value =>
        inputs.set mapping.1 (.str value)) inputs = some resolved) (name : String) :
    (∀ mapping ∈ mappings, mapping.1 = name →
      ∃ value, resolveWorkflowMapping words previous context mapping.2 = some value ∧
        resolved.get? name = some (.str value)) ∧
    (name ∉ mappings.map Prod.fst → resolved.get? name = inputs.get? name) := by
  induction mappings generalizing inputs with
  | nil =>
      cases h
      exact ⟨nofun, fun _ => rfl⟩
  | cons first mappings ih =>
      obtain ⟨hfirst, hkeys⟩ := List.nodup_cons.mp hkeys
      rw [List.foldlM_cons] at h
      cases hvalue : resolveWorkflowMapping words previous context first.2 with
      | none =>
          rw [hvalue] at h
          cases h
      | some value =>
          rw [hvalue] at h
          obtain ⟨hlater, hother⟩ := ih hkeys h
          rw [Dict.get?_set] at hother
          refine ⟨fun mapping hmapping hname => ?_, fun hnot => ?_⟩
          · rcases List.mem_cons.mp hmapping with rfl | hmapping
            · refine ⟨value, hvalue, ?_⟩
              rw [hother (hname ▸ hfirst), if_pos hname.symm]
            · exact hlater mapping hmapping hname
          · rw [List.map_cons, List.mem_cons, not_or] at hnot
            rw [hother hnot.2, if_neg hnot.1]

theorem prepare_ne_none_iff {step : WorkflowStep} :
    prepareWorkflowStepInputs words step previous context ≠ none ↔
      ∀ mapping ∈ step.inputMapping,
        resolveWorkflowMapping words previous context mapping.2 ≠ none := by
  rw [prepareWorkflowStepInputs]
  generalize step.inputs = inputs
  induction step.inputMapping generalizing inputs with
  | nil => exact iff_of_true nofun nofun
  | cons first mappings ih =>
      rw [List.foldlM_cons, List.forall_mem_cons]
      cases hvalue : resolveWorkflowMapping words previous context first.2 with
      | none => exact iff_of_false (absurd rfl) fun hboth => hboth.1 rfl
      | some value => exact (ih _).trans (and_iff_right nofun).symm

end MindscapeLocalCore.Workflow.HandoffInputs
