import MindscapeLocalCore.ToolLoop.LoopBudgets

/-!
The scope that a tool execution is given: the workspace and the project of the conversation, and
the profile and the execution of the loop, or what the parameters of the call say.
-/

namespace MindscapeLocalCore.ToolLoop.CallScopes

open Library Library.FuelledLoop Library.Json ToolCallParser ExecutionLoop LoopBudgets

structure Scope where
  workspaceId : Json
  projectId : Json
  profileId : Json
  executionId : Json

def argument (arguments : Dict) (name : String) : Json := (arguments.get? name).getD .null

def scopeOf (arguments : Dict) : Scope where
  workspaceId := argument arguments "workspace_id"
  projectId := argument arguments "project_id"
  profileId := argument arguments "profile_id"
  executionId := argument arguments "execution_id"

def startedExecutions (p : Platform) (setting : Setting) (outcomes : ℕ → Outcome)
    (responses : ℕ → String) (assistantResponse : String) : List Execution :=
  ((executeToolLoop p setting outcomes responses assistantResponse
    (roundsLeft setting (.start assistantResponse) + 1)).map (·.executions)).getD []

variable (setting : Setting)

def OwnScope (workspaceId : String) (arguments : Dict) : Prop :=
  (scopeOf arguments).workspaceId = .str workspaceId ∧
    (scopeOf arguments).profileId = .str setting.profileId ∧
    (scopeOf arguments).executionId = .str setting.executionId

def scopeEntries : List String := ["workspace_id", "project_id", "profile_id", "execution_id"]

def SameButScope (call call' : ToolCall) : Prop :=
  call.toolSlot = call'.toolSlot ∧ call.toolName = call'.toolName ∧
    ∃ parameters parameters' : Dict,
      call.parameters = .obj parameters ∧ call'.parameters = .obj parameters' ∧
        parameters.filter (fun member => member.1 ∉ scopeEntries) =
          parameters'.filter fun member => member.1 ∉ scopeEntries

/-- Every execution of two runs is in the own scope, and calls that differ only in entries that
name a scope are executed in the same one. -/
def Confined (workspaceId : String) (first second : List Execution) : Prop :=
  (∀ execution ∈ first ++ second, OwnScope setting workspaceId execution.arguments) ∧
    ∀ execution ∈ first, ∀ execution' ∈ second, SameButScope execution.call execution'.call →
      scopeOf execution.arguments = scopeOf execution'.arguments

def Redirects (workspaceId : String) (call : ToolCall) : Prop :=
  given call.toolSlot = none ∧ ∃ parameters, call.parameters = .obj parameters ∧
    ∃ value, Dict.get? parameters "workspace_id" = some value ∧ value ≠ .str workspaceId

def projectEntry (call : ToolCall) : Json :=
  match call.parameters with
  | .obj parameters => argument parameters "project_id"
  | _ => .null

def SameProjects (first second : List Execution) : Prop :=
  ∀ execution ∈ first, ∀ execution' ∈ second, SameButScope execution.call execution'.call →
    given execution.call.toolSlot = none →
      projectEntry execution.call = projectEntry execution'.call

variable {p : Platform} {setting} {outcomes : ℕ → Outcome} {responses : ℕ → String}
  {loop next : Loop} {calls : Calls} {call call' : ToolCall} {arguments arguments' fixed : Dict}
  {toolCalls : List ToolCall} {keywords parameters : Dict} {workspaceId : String} {name : String}

/-! ### Arguments -/

theorem bindArguments_eq_some (h : bindArguments fixed keywords = some arguments) :
    arguments = fixed ++ keywords := by
  rw [bindArguments] at h
  split at h
  · cases h
  · exact (Option.some.inj h).symm

theorem argument_append_of_some {value : Json} (h : Dict.get? fixed name = some value) :
    argument (fixed ++ keywords) name = value := by
  rw [argument, Dict.get?, List.lookup_append]
  rw [Dict.get?] at h
  rw [h]
  rfl

theorem argument_append_of_none (h : Dict.get? fixed name = none) :
    argument (fixed ++ keywords) name = argument keywords name := by
  rw [argument, argument, Dict.get?, List.lookup_append]
  rw [Dict.get?] at h
  rw [h]
  rfl

theorem scopeOf_slotArguments {toolSlot : Json}
    (h : slotArguments setting toolSlot parameters = some arguments) :
    scopeOf arguments = ⟨.ofOption setting.workspaceId, .ofOption setting.projectId,
      .str setting.profileId, .str setting.executionId⟩ := by
  rw [bindArguments_eq_some h, scopeOf, argument_append_of_some rfl, argument_append_of_some rfl,
    argument_append_of_some rfl, argument_append_of_some rfl]

theorem scopeOf_namedArguments {toolName : Json}
    (h : namedArguments setting toolName parameters = some arguments) :
    scopeOf arguments = ⟨argument (namedKeywords setting parameters) "workspace_id",
      argument (namedKeywords setting parameters) "project_id", .str setting.profileId,
      .str setting.executionId⟩ := by
  rw [bindArguments_eq_some h, scopeOf, argument_append_of_none rfl, argument_append_of_none rfl,
    argument_append_of_some rfl, argument_append_of_some rfl]

theorem namedKeywords_workspace (hworkspace : setting.workspaceId = some workspaceId)
    (hnamed : workspaceId ≠ "") :
    argument (namedKeywords setting parameters) "workspace_id" =
      (Dict.get? parameters "workspace_id").getD (.str workspaceId) := by
  rw [namedKeywords, hworkspace]
  dsimp only
  cases hentry : Dict.get? parameters "workspace_id" with
  | none =>
      have hmissing : parameters.has "workspace_id" = false := by
        rw [Dict.has, hentry]
        rfl
      rw [if_pos ⟨by rw [hmissing]; exact Bool.false_ne_true, hnamed⟩, argument, Dict.get?_set,
        if_pos rfl]
      rfl
  | some value =>
      have hgiven : parameters.has "workspace_id" = true := by
        rw [Dict.has, hentry]
        rfl
      rw [if_neg fun h => h.1 hgiven, argument, hentry]
      rfl

theorem namedKeywords_project :
    argument (namedKeywords setting parameters) "project_id" =
      argument parameters "project_id" := by
  rw [namedKeywords]
  split
  · rfl
  · split
    · rw [argument, argument, Dict.get?_set_of_ne _ _ (by decide)]
    · rfl

theorem argumentsOf_cases (h : argumentsOf setting call = some arguments) :
    ∃ parameters, call.parameters = .obj parameters ∧
      ((∃ toolSlot, given call.toolSlot = some toolSlot ∧
          slotArguments setting toolSlot parameters = some arguments) ∨
        given call.toolSlot = none ∧ ∃ toolName, given call.toolName = some toolName ∧
          namedArguments setting toolName parameters = some arguments) := by
  rw [argumentsOf] at h
  cases hparameters : call.parameters with
  | obj parameters =>
      rw [hparameters] at h
      dsimp only at h
      refine ⟨parameters, rfl, ?_⟩
      cases hslot : given call.toolSlot with
      | some toolSlot =>
          rw [hslot] at h
          exact .inl ⟨toolSlot, rfl, h⟩
      | none =>
          rw [hslot] at h
          cases hname : given call.toolName with
          | some toolName =>
              rw [hname] at h
              exact .inr ⟨rfl, toolName, rfl, h⟩
          | none =>
              rw [hname] at h
              cases h
  | _ =>
      rw [hparameters] at h
      cases h

theorem ownScope_iff (hworkspace : setting.workspaceId = some workspaceId)
    (hnamed : workspaceId ≠ "") (h : argumentsOf setting call = some arguments) :
    OwnScope setting workspaceId arguments ↔ ¬ Redirects workspaceId call := by
  obtain ⟨parameters, hparameters, ⟨toolSlot, hslot, hgiven⟩ | ⟨hslot, toolName, -, hgiven⟩⟩ :=
    argumentsOf_cases h
  · rw [OwnScope, scopeOf_slotArguments hgiven, hworkspace]
    refine iff_of_true ⟨rfl, rfl, rfl⟩ fun hredirects => ?_
    rw [hredirects.1] at hslot
    cases hslot
  · rw [OwnScope, scopeOf_namedArguments hgiven, namedKeywords_workspace hworkspace hnamed]
    constructor
    · rintro ⟨hown, -, -⟩ ⟨-, parameters', hsame, value, hvalue, hother⟩
      obtain rfl := Json.obj.inj (hparameters.symm.trans hsame)
      rw [hvalue] at hown
      exact hother hown
    · intro hkeeps
      refine ⟨?_, rfl, rfl⟩
      cases hvalue : Dict.get? parameters "workspace_id" with
      | none => rfl
      | some value =>
          by_contra hother
          exact hkeeps ⟨hslot, parameters, hparameters, value, hvalue, hother⟩

theorem sameScope_iff (h : argumentsOf setting call = some arguments)
    (h' : argumentsOf setting call' = some arguments')
    (hown : OwnScope setting workspaceId arguments)
    (hown' : OwnScope setting workspaceId arguments') (hsame : SameButScope call call') :
    scopeOf arguments = scopeOf arguments' ↔
      (given call.toolSlot = none → projectEntry call = projectEntry call') := by
  obtain ⟨parameters, hparameters, ⟨toolSlot, hslot, hgiven⟩ | ⟨hslot, toolName, -, hgiven⟩⟩ :=
    argumentsOf_cases h
  · obtain ⟨_, -, ⟨_, -, hgiven'⟩ | ⟨hslot', -⟩⟩ := argumentsOf_cases h'
    · rw [scopeOf_slotArguments hgiven, scopeOf_slotArguments hgiven']
      refine iff_of_true rfl fun hnone => ?_
      rw [hnone] at hslot
      cases hslot
    · rw [← hsame.1, hslot] at hslot'
      cases hslot'
  · obtain ⟨parameters', hparameters', ⟨_, hslot', -⟩ | ⟨-, _, -, hgiven'⟩⟩ := argumentsOf_cases h'
    · rw [← hsame.1, hslot] at hslot'
      cases hslot'
    · have hscope := scopeOf_namedArguments hgiven
      have hscope' := scopeOf_namedArguments hgiven'
      rw [OwnScope, hscope] at hown
      rw [OwnScope, hscope'] at hown'
      dsimp only at hown hown'
      rw [hscope, hscope', hown.1, hown'.1, namedKeywords_project, namedKeywords_project,
        Scope.mk.injEq, projectEntry, projectEntry, hparameters, hparameters']
      constructor
      · rintro ⟨-, hproject, -, -⟩ -
        exact hproject
      · intro hproject
        exact ⟨rfl, hproject hslot, rfl, rfl⟩

/-! ### Runs -/

/-- Every execution was started with the arguments of its call. -/
def Bound (setting : Setting) (executions : List Execution) : Prop :=
  ∀ execution ∈ executions, argumentsOf setting execution.call = some execution.arguments

theorem foldl_tryCall_bound (h : Bound setting calls.loop.executions) :
    Bound setting (toolCalls.foldl (tryCall setting outcomes) calls).loop.executions := by
  refine foldl_tryCall_keeps (P := fun calls => Bound setting calls.loop.executions) ?_ h
  intro calls call name arguments h _ _ harguments execution hmem
  rw [recordExecution_executions] at hmem
  rcases List.mem_append.mp hmem with hmem | hmem
  · exact h execution hmem
  · rw [List.mem_singleton.mp hmem]
    exact harguments

theorem round_bound (h : Bound setting loop.executions) :
    (∀ next, round p setting outcomes responses loop = .inl next →
      Bound setting next.executions) ∧
    (∀ returned, round p setting outcomes responses loop = .inr returned →
      Bound setting returned.executions) := by
  rcases round_cases p setting outcomes responses loop with
    ⟨-, hround | ⟨-, -, hround⟩ | ⟨-, hround⟩⟩ | ⟨-, -, hround⟩
  · rw [hround]
    exact ⟨nofun, fun returned hreturned => Sum.inr.inj hreturned ▸ h⟩
  · rw [hround]
    exact ⟨fun next hnext => Sum.inl.inj hnext ▸ h, nofun⟩
  · rw [hround]
    exact ⟨fun next hnext => Sum.inl.inj hnext ▸ h, nofun⟩
  · have hbound : Bound setting (tryCalls setting outcomes { loop with formatRetryCount := 0 }
        (triedCalls p setting loop)).loop.executions := foldl_tryCall_bound h
    rw [hround]
    refine ⟨fun next hnext => ?_, fun returned hreturned => ?_⟩
    · obtain ⟨-, rfl⟩ := afterCalls_inl hnext
      exact hbound
    · rw [(afterCalls_inr hreturned).2.2]
      exact hbound

theorem startedExecutions_bound (p : Platform) (setting : Setting) (outcomes : ℕ → Outcome)
    (responses : ℕ → String) (assistantResponse : String) :
    Bound setting (startedExecutions p setting outcomes responses assistantResponse) := by
  obtain ⟨last, returned, hreach, hlast, hrun⟩ :=
    @exists_run _ _ (round p setting outcomes responses) _ _ (roundsLeft setting)
      (start_invariant setting assistantResponse) fun _ _ => round_invariant
  rw [startedExecutions, executeToolLoop, hrun _ (Nat.lt_succ_self _)]
  have hbound : Bound setting last.executions :=
    @Reaches.invariant _ _ _ _ _ (fun loop => Bound setting loop.executions) hreach
      (fun _ h => absurd h List.not_mem_nil) fun _ next h hround => (round_bound h).1 next hround
  exact (round_bound hbound).2 returned hlast

/-- Two runs of a loop are confined where no call that they execute redirects, and those by name
that differ only in entries that name a scope have the same project. -/
theorem confined_iff (p : Platform) (setting : Setting) (workspaceId : String)
    (hworkspace : setting.workspaceId = some workspaceId) (hnamed : workspaceId ≠ "")
    (outcomes outcomes' : ℕ → Outcome) (responses responses' : ℕ → String)
    (assistantResponse assistantResponse' : String) :
    let first := startedExecutions p setting outcomes responses assistantResponse
    let second := startedExecutions p setting outcomes' responses' assistantResponse'
    Confined setting workspaceId first second ↔
      (∀ execution ∈ first ++ second, ¬ Redirects workspaceId execution.call) ∧
        SameProjects first second := by
  intro first second
  have hfirst : Bound setting first := startedExecutions_bound _ _ _ _ _
  have hsecond : Bound setting second := startedExecutions_bound _ _ _ _ _
  have hown : (∀ execution ∈ first ++ second, OwnScope setting workspaceId execution.arguments) ↔
      ∀ execution ∈ first ++ second, ¬ Redirects workspaceId execution.call := by
    refine forall₂_congr fun execution hmem => ownScope_iff hworkspace hnamed ?_
    rcases List.mem_append.mp hmem with hmem | hmem
    · exact hfirst execution hmem
    · exact hsecond execution hmem
  rw [Confined, ← hown]
  refine and_congr_right fun howned => ?_
  refine forall₄_congr fun execution hmem execution' hmem' => forall_congr' fun hsame => ?_
  exact sameScope_iff (hfirst execution hmem) (hsecond execution' hmem')
    (howned execution (List.mem_append_left _ hmem))
    (howned execution' (List.mem_append_right _ hmem')) hsame

/-! ### A call that redirects -/

def redirecting : String :=
  "\x7b\"tool_name\": \"t\", \"parameters\": \x7b\"workspace_id\": \"w2\"\x7d\x7d"

def redirectingPlatform : Platform where
  loads text :=
    if text = redirecting then
      some (.obj [("parameters", .obj [("workspace_id", .str "w2")]), ("tool_name", .str "t")])
    else none
  isWord c := c.isAlphanum || c = '_'

/-- The tool is executed in the workspace that the model names. -/
theorem redirecting_not_confined :
    ¬ Confined oneCall "w1"
      (startedExecutions redirectingPlatform oneCall (fun _ => .success) (fun _ => "") redirecting)
      (startedExecutions redirectingPlatform oneCall (fun _ => .success) (fun _ => "")
        redirecting) := by
  rintro ⟨howned, -⟩
  have hworkspaces : ((startedExecutions redirectingPlatform oneCall (fun _ => .success)
      (fun _ => "") redirecting).map fun execution =>
        (scopeOf execution.arguments).workspaceId.str?) = [some "w2"] := by
    decide +kernel
  obtain ⟨execution, hmem, hworkspace⟩ := List.mem_map.mp
    (hworkspaces ▸ List.mem_singleton_self (some "w2"))
  rw [(howned execution (List.mem_append_left _ hmem)).1] at hworkspace
  exact absurd (Option.some.inj hworkspace) (by decide)

theorem confined_iff_oneCall :
    Confined oneCall "w1"
        (startedExecutions redirectingPlatform oneCall (fun _ => .success) (fun _ => "") "")
        (startedExecutions redirectingPlatform oneCall (fun _ => .success) (fun _ => "")
          redirecting) ↔
      (∀ execution ∈ startedExecutions redirectingPlatform oneCall (fun _ => .success)
          (fun _ => "") "" ++ startedExecutions redirectingPlatform oneCall (fun _ => .success)
          (fun _ => "") redirecting, ¬ Redirects "w1" execution.call) ∧
        SameProjects
          (startedExecutions redirectingPlatform oneCall (fun _ => .success) (fun _ => "") "")
          (startedExecutions redirectingPlatform oneCall (fun _ => .success) (fun _ => "")
            redirecting) :=
  confined_iff redirectingPlatform oneCall "w1" rfl (by decide) (fun _ => .success)
    (fun _ => .success) (fun _ => "") (fun _ => "") "" redirecting

end MindscapeLocalCore.ToolLoop.CallScopes
