import MindscapeLocalCore.Library.Trace
import MindscapeLocalCore.ToolLoop.ToolCallParser

/-!
The loop that runs the tools a model asks for and tells it what came out, until it asks for none,
a tool waits for an approval, or the budget is spent.
-/

namespace MindscapeLocalCore.ToolLoop.ExecutionLoop

open Library Library.FuelledLoop Library.Json Library.TextScan ToolCallParser

/-- `LoopBudget`: what the loop reads of it. -/
structure LoopBudget where
  maxIterations : ℕ
  maxToolCalls : ℕ
  maxIterations_range : 1 ≤ maxIterations ∧ maxIterations ≤ 100
  maxToolCalls_range : 1 ≤ maxToolCalls ∧ maxToolCalls ≤ 300

/-- The arguments of the loop, what it reads of the conversation, and the budget of the runtime
profile where one is loaded. -/
structure Setting where
  maxIterations : ℤ
  loopBudget : Option LoopBudget
  autoExecute : Bool
  workspaceId : Option String
  projectId : Option String
  profileId : String
  executionId : String

structure ApprovalRequest where
  commandId : String
  toolFqn : String
  reason : String

inductive Outcome
  | success
  | failed
  | approvalRequired (request : ApprovalRequest)

/-- A tool execution that was started: the call, the keyword arguments it was given, and what came
out of it. -/
structure Execution where
  call : ToolCall
  arguments : Dict
  outcome : Outcome

structure Loop where
  toolIteration : ℕ
  toolCallCount : ℕ
  usedTools : List Json
  currentResponse : String
  formatRetryCount : ℕ
  modelCalls : ℕ
  executions : List Execution

structure Returned where
  response : String
  usedTools : List Json
  modelCalls : ℕ
  executions : List Execution

/-! ### Intents -/

def toolIntentPatterns : List (List Piece × String) :=
  [(literal "tool_code", "Used 'tool_code' instead of 'tool_call'"),
    (literal "tool_command", "Used 'tool_command' instead of 'tool_call'"),
    (literal "function_call", "Used 'function_call' instead of 'tool_call'"),
    (literal "fs.read_file", "Used 'fs.read_file' instead of 'filesystem_read_file'"),
    (literal "fs.write_file", "Used 'fs.write_file' instead of 'filesystem_write_file'"),
    (literal "fs.list_files", "Used 'fs.list_files' instead of 'filesystem_list_files'"),
    (literal "print" ++ [.spaces, .char '(', .spaces] ++ literal "filesystem_",
      "Used Python print() syntax to call tools"),
    (literal "await" ++ [.someSpaces] ++ literal "filesystem_",
      "Used async/await syntax to call tools")]

def detectToolCallIntent (response : String) : Option String :=
  (toolIntentPatterns.find? fun pattern =>
    occurs sameLetter pattern.1 response).map Prod.snd

/-! ### Arguments -/

def bindArguments (fixed keywords : Dict) : Option Dict :=
  if keywords.any fun member => member.1 = "self" ∨ fixed.has member.1 then none
  else some (fixed ++ keywords)

variable (p : Platform) (setting : Setting)

def slotKeys : List String := ["workspace_id", "project_id"]

def slotArguments (toolSlot : Json) (parameters : Dict) : Option Dict :=
  bindArguments
    [("tool_slot", toolSlot), ("tool_policy", .null), ("profile_id", .str setting.profileId),
      ("workspace_id", .ofOption setting.workspaceId),
      ("project_id", .ofOption setting.projectId), ("execution_id", .str setting.executionId),
      ("step_id", .null)]
    (parameters.filter fun member => member.1 ∉ slotKeys)

/-- The parameters of a call by name, with the workspace of the conversation where they have
none. -/
def namedKeywords (parameters : Dict) : Dict :=
  match setting.workspaceId with
  | none => parameters
  | some workspaceId =>
      if ¬ parameters.has "workspace_id" ∧ workspaceId ≠ "" then
        parameters.set "workspace_id" (.str workspaceId)
      else parameters

def namedArguments (toolName : Json) (parameters : Dict) : Option Dict :=
  bindArguments
    [("tool_fqn", toolName), ("profile_id", .str setting.profileId),
      ("execution_id", .str setting.executionId), ("step_id", .null)]
    (namedKeywords setting parameters)

def given (name : Option Json) : Option Json := name.filter Json.truthy

def displayName (call : ToolCall) : Option Json := given call.toolSlot <|> given call.toolName

def argumentsOf (call : ToolCall) : Option Dict :=
  match call.parameters with
  | .obj parameters =>
      match given call.toolSlot, given call.toolName with
      | some toolSlot, _ => slotArguments setting toolSlot parameters
      | none, some toolName => namedArguments setting toolName parameters
      | none, none => none
  | _ => none

/-! ### Rounds -/

structure Calls where
  loop : Loop
  anySuccess : Bool
  pendingApproval : Option ApprovalRequest
  stopped : Bool

variable (outcomes : ℕ → Outcome) (responses : ℕ → String)

def recordExecution (calls : Calls) (call : ToolCall) (name : Json) (arguments : Dict) : Calls :=
  let outcome := outcomes calls.loop.executions.length
  let executions := calls.loop.executions ++ [⟨call, arguments, outcome⟩]
  match outcome with
  | .success =>
      let toolCallCount := calls.loop.toolCallCount + 1
      { calls with
        loop := { calls.loop with
          executions := executions
          usedTools := calls.loop.usedTools ++ [name]
          toolCallCount := toolCallCount }
        anySuccess := true
        stopped := setting.loopBudget.any (·.maxToolCalls ≤ toolCallCount) }
  | .failed => { calls with loop := { calls.loop with executions := executions } }
  | .approvalRequired request =>
      { calls with
        loop := { calls.loop with executions := executions }
        pendingApproval := some request
        stopped := true }

def tryCall (calls : Calls) (call : ToolCall) : Calls :=
  if calls.stopped then calls
  else
    match displayName call, argumentsOf setting call with
    | some name, some arguments => recordExecution setting outcomes calls call name arguments
    | _, _ => calls

def buildPendingApprovalMessage (request : ApprovalRequest) : String :=
  let reason := if request.reason = "" then "Tool execution requires approval." else request.reason
  "**Approval Required**\n\n" ++ "- Tool: `" ++ request.toolFqn ++ "`\n" ++
    "- Pending command: `" ++ request.commandId ++ "`\n" ++ "- Reason: " ++ reason ++ "\n\n" ++
    "Execution was paused before the tool ran. Approve the pending command to continue."

def chatCompletion (loop : Loop) : Loop :=
  { loop with
    currentResponse := responses loop.modelCalls
    modelCalls := loop.modelCalls + 1 }

def Loop.returned (loop : Loop) : Returned :=
  ⟨loop.currentResponse, loop.usedTools, loop.modelCalls, loop.executions⟩

def maxToolIterations : ℤ :=
  match setting.loopBudget with
  | some budget => min setting.maxIterations budget.maxIterations
  | none => setting.maxIterations

/-- The calls of a response that the budget leaves room for, or none where it is spent. -/
def withinBudget (loop : Loop) (toolCalls : List ToolCall) : Option (List ToolCall) :=
  match setting.loopBudget with
  | some budget =>
      if budget.maxToolCalls ≤ loop.toolCallCount then none
      else some (toolCalls.take (budget.maxToolCalls - loop.toolCallCount))
  | none => some toolCalls

def withoutCalls (loop : Loop) : Loop ⊕ Returned :=
  if (detectToolCallIntent loop.currentResponse).isSome ∧ loop.formatRetryCount < 2 then
    .inl (chatCompletion responses
      { loop with formatRetryCount := loop.formatRetryCount + 1 })
  else if setting.autoExecute ∧ loop.toolIteration < maxToolIterations setting - 1 then
    .inl { chatCompletion responses loop with toolIteration := loop.toolIteration + 1 }
  else .inr loop.returned

def tryCalls (loop : Loop) (toolCalls : List ToolCall) : Calls :=
  toolCalls.foldl (tryCall setting outcomes) ⟨loop, false, none, false⟩

def afterCalls (calls : Calls) : Loop ⊕ Returned :=
  match calls.pendingApproval with
  | some request =>
      .inr { calls.loop.returned with response := buildPendingApprovalMessage request }
  | none =>
      let loop :=
        { chatCompletion responses calls.loop with toolIteration := calls.loop.toolIteration + 1 }
      if ¬ calls.anySuccess ∧ 2 ≤ loop.toolIteration ∧
          parseToolCallsFromResponse p loop.currentResponse = [] then
        .inr loop.returned
      else .inl loop

def round (loop : Loop) : Loop ⊕ Returned :=
  if loop.toolIteration < maxToolIterations setting then
    match parseToolCallsFromResponse p loop.currentResponse with
    | [] => withoutCalls setting responses loop
    | call :: rest =>
        let loop := { loop with formatRetryCount := 0 }
        match withinBudget setting loop (call :: rest) with
        | none => .inr loop.returned
        | some toolCalls => afterCalls p responses (tryCalls setting outcomes loop toolCalls)
  else .inr loop.returned

def Loop.start (assistantResponse : String) : Loop := ⟨0, 0, [], assistantResponse, 0, 0, []⟩

def executeToolLoop (assistantResponse : String) (fuel : ℕ) : Option Returned :=
  run (round p setting outcomes responses) fuel (.start assistantResponse)

end MindscapeLocalCore.ToolLoop.ExecutionLoop
