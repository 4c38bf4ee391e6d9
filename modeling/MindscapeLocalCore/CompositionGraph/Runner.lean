import MindscapeLocalCore.CompositionGraph.Graph

/-!
The runner of composition graphs. The nodes of a batch run concurrently, and what they wait for,
the executors among it, may happen in any order; the next batch begins when all have ended.
-/

namespace MindscapeLocalCore.CompositionGraph.Runner

open Library Library.ItemDict Values RuntimeLock Graph

/-- `CompositionGraphRunNodeState` -/
structure NodeState where
  status : NodeStatus
  inputValues : List (String × Value)
  outputs : Items
  diagnostics : List Diagnostic
  metadata : Items

/-- What `_set_node_state` is given for a node. -/
structure Update where
  status : NodeStatus
  inputValues : Option (List (String × Value)) := none
  outputs : Option Items := none
  diagnostics : Option (List Diagnostic) := none
  metadata : Option Items := none

/-- `CompositionGraphNodeProviderNode`: the template of its runtime lock, if it has one. -/
structure Provider where
  runtimeLock : Option String

structure Setting where
  workspaceId : String
  nodes : List Node
  edges : List Edge
  providers : String → Option Provider
  objects : Objects

/-- How far `_execute_node` has come. -/
inductive Phase where
  | queued
  /-- to be set to `skipped` -/
  | skipping (inputs : List (String × Value)) (upstream : String)
  /-- an object reference, to be set to `running` and to `succeeded` -/
  | referring (inputs : List (String × Value))
  | referred
  /-- to be set to `failed`, as no provider has its type -/
  | unknown (inputs : List (String × Value))
  /-- waits for a runtime lock -/
  | locking (key : String) (inputs : List (String × Value))
  /-- to be set to `running` -/
  | starting (key : Option String) (inputs : List (String × Value))
  /-- the executor was called -/
  | calling (key : Option String) (inputs : List (String × Value))
  /-- to be set to what the executor made of it -/
  | ending (key : Option String) (result : NodeResult)
  | done
  | raised (text : String)

structure Task where
  node : Node
  phase : Phase

structure Invocation where
  nodeId : String
  inputValues : List (String × Value)

inductive RunStatus where
  | succeeded
  | waiting
  | failed
deriving DecidableEq

structure Outcome where
  status : RunStatus
  diagnostics : List Diagnostic
  outputs : List (String × Items)

structure RunState where
  nodeStates : String → Option NodeState
  degree : String → ℤ
  batch : List Task
  completed : List String
  invoked : List Invocation
  outcome : Option Outcome

inductive Event where
  /-- a task of the batch runs up to where it first waits -/
  | begin (i : ℕ)
  | acquire (i : ℕ)
  /-- a task sets the state of its node; storing the run may raise -/
  | store (i : ℕ) (failure : Option String)
  /-- the executor returns a value or raises -/
  | answer (i : ℕ) (result : Except String Value)
  /-- all tasks of the batch have ended -/
  | next
  /-- a task of the batch raised -/
  | fail

variable (setting : Setting)

/-! ### The graph -/

def runEdges : List Edge :=
  setting.edges.filter fun edge =>
    edge.source ∈ setting.nodes.map Node.id ∧ edge.target ∈ setting.nodes.map Node.id

def incoming (nodeId : String) : List Edge :=
  (runEdges setting).filter fun edge => edge.target = nodeId

def outgoing (nodeId : String) : List String :=
  ((runEdges setting).filter fun edge => edge.source = nodeId).map Edge.target

def inDegree (nodeId : String) : ℤ := (incoming setting nodeId).length

/-- `node_by_id[node_id]` -/
def findNode (nodeId : String) : Option Node :=
  setting.nodes.reverse.find? fun node => node.id = nodeId

/-! ### One node -/

/-- What an edge carries: the output of its source, or `None`. -/
def carried (states : String → Option NodeState) (edge : Edge) : Option Value :=
  (states edge.source).map fun state => (get edge.sourcePort state.outputs).getD .none

def inputValues (states : String → Option NodeState) (edges : List Edge) : List (String × Value) :=
  edges.foldl
    (fun values edge =>
      match carried states edge with
      | none => values
      | some value => setItem edge.targetPort value values) []

def SourceSucceeded (states : String → Option NodeState) (edge : Edge) : Prop :=
  ∃ state ∈ states edge.source, state.status = .succeeded

instance (states : String → Option NodeState) (edge : Edge) :
    Decidable (SourceSucceeded states edge) :=
  inferInstanceAs (Decidable (∃ _ ∈ _, _))

def firstFailedUpstream (states : String → Option NodeState) (edges : List Edge) : Option String :=
  (edges.find? fun edge => ¬ SourceSucceeded states edge).map Edge.source

def updatedOutputs (state : NodeState) (update : Update) : Except String Items :=
  match update.outputs with
  | none => .ok state.outputs
  | some outputs => sanitizeOutputs setting.objects outputs

/-- `_set_node_state`, up to where it stores the run. -/
def setNodeState (states : String → Option NodeState) (nodeId : String) (update : Update) :
    Except String (String → Option NodeState) :=
  match states nodeId with
  | none => .error nodeId
  | some state => do
      let outputs ← updatedOutputs setting state update
      return Function.update states nodeId (some {
        status := update.status
        inputValues := update.inputValues.getD state.inputValues
        outputs := outputs
        diagnostics := update.diagnostics.getD state.diagnostics
        metadata := update.metadata.getD state.metadata })

/-- `_execute_node`, up to where it first waits. -/
def beginNode (states : String → Option NodeState) (node : Node) : Phase :=
  let inputs := inputValues states (incoming setting node.id)
  match firstFailedUpstream states (incoming setting node.id) with
  | some upstream => .skipping inputs upstream
  | none =>
      if node.type = coreObjectReferenceNodeType then .referring inputs
      else
        match setting.providers node.type with
        | none => .unknown inputs
        | some provider =>
            match provider.runtimeLock with
            | none => .starting none inputs
            | some template =>
                match renderRuntimeLockKey setting.objects template setting.workspaceId
                    node.payload with
                | .error text => .raised text
                | .ok key => if key = "" then .starting none inputs else .locking key inputs

def nodeDiagnostic (code message : String) (nodeId : Option String)
    (metadata : List (String × Value)) : Diagnostic :=
  { code := code
    message := message
    nodeId := nodeId
    metadata := metadata }

def skipped (node : Node) (inputs : List (String × Value)) (upstream : String) : Update :=
  { status := .skipped
    inputValues := some inputs
    diagnostics := some [nodeDiagnostic "upstream_node_failed"
      "Node skipped because an upstream node did not succeed." (some node.id)
      [("upstream_node_id", .str upstream)]] }

def running (inputs : List (String × Value)) : Update :=
  { status := .running
    inputValues := some inputs }

def referenced (node : Node) : Update :=
  { status := .succeeded
    outputs := some [(.str "object", (node.payload.lookup "ref").getD .none)] }

def unknownExecutor (node : Node) (inputs : List (String × Value)) : Update :=
  { status := .failed
    inputValues := some inputs
    diagnostics := some [nodeDiagnostic "unknown_node_executor"
      "Node type has no executable provider." (some node.id) [("node_type", .str node.type)]] }

def ended (result : NodeResult) : Update :=
  { status := result.status
    outputs := some result.outputs
    diagnostics := some result.diagnostics
    metadata := some result.metadata }

def executorFailed (node : Node) (text : String) : NodeResult :=
  { status := .failed
    outputs := []
    diagnostics := [nodeDiagnostic "node_executor_failed" ("Node executor failed: " ++ text)
      (some node.id) [("node_type", .str node.type)]]
    metadata := [] }

def normalized (node : Node) : Except String Value → NodeResult
  | .error text => executorFailed node text
  | .ok value =>
      match normalizeNodeResult setting.objects node.id value with
      | .error text => executorFailed node text
      | .ok result => result

def nextUpdate (node : Node) : Phase → Option (Update × Phase)
  | .skipping inputs upstream => some (skipped node inputs upstream, .done)
  | .referring inputs => some (running inputs, .referred)
  | .referred => some (referenced node, .done)
  | .unknown inputs => some (unknownExecutor node inputs, .done)
  | .starting key inputs => some (running inputs, .calling key inputs)
  | .ending _ result => some (ended result, .done)
  | _ => none

def Phase.key : Phase → Option String
  | .starting key _ => key
  | .calling key _ => key
  | .ending key _ => key
  | _ => none

def Phase.invocation (nodeId : String) : Phase → List Invocation
  | .calling _ inputs => [⟨nodeId, inputs⟩]
  | _ => []

/-! ### The run -/

def RunState.setPhase (s : RunState) (i : ℕ) (task : Task) (phase : Phase) : RunState :=
  { s with
    batch := s.batch.set i { task with phase := phase }
    invoked := s.invoked ++ phase.invocation task.node.id }

def RunState.write (s : RunState) (i : ℕ) (task : Task) (update : Update) (phase : Phase)
    (failure : Option String) : RunState :=
  match setNodeState setting s.nodeStates task.node.id update with
  | .error text => s.setPhase i task (.raised text)
  | .ok states =>
      match failure with
      | none => { s with nodeStates := states }.setPhase i task phase
      | some text => { s with nodeStates := states }.setPhase i task (.raised text)

def RunState.states (s : RunState) : List NodeState :=
  setting.nodes.filterMap fun node => s.nodeStates node.id

def RunState.finalStatus (s : RunState) : RunStatus :=
  let statuses := (s.states setting).map NodeState.status
  if .failed ∈ statuses ∨ .skipped ∈ statuses then .failed
  else if .waiting ∈ statuses then .waiting
  else .succeeded

/-- `_collect_terminal_outputs` -/
def RunState.terminalOutputs (s : RunState) : List (String × Items) :=
  (setting.nodes.filter fun node =>
    node.id ∉ setting.edges.map Edge.source).filterMap fun node =>
      (s.nodeStates node.id).map fun state => (node.id, state.outputs)

def RunState.finish (s : RunState) : Outcome :=
  if s.completed.dedup.length ≠ (setting.nodes.map Node.id).dedup.length then
    { status := .failed
      diagnostics := [nodeDiagnostic "graph_cycle_detected"
        "Composition graph run requires an acyclic graph." none []]
      outputs := [] }
  else
    { status := s.finalStatus setting
      diagnostics := []
      outputs := s.terminalOutputs setting }

def queueNode (node : Node) : Task := ⟨node, .queued⟩

def tasksOf (ready : List String) : List Task :=
  (ready.filterMap (findNode setting)).map queueNode

/-- The batch is completed, and the nodes that become ready are the next one. -/
def RunState.advance (s : RunState) : RunState :=
  let ids := s.batch.map fun task => task.node.id
  let (degree, ready) := InDegrees.discharge (ids.flatMap (outgoing setting)) (s.degree, [])
  let s := { s with
    degree := degree
    batch := tasksOf setting ready
    completed := s.completed ++ ids }
  if ready = [] then { s with outcome := some (s.finish setting) } else s

def Phase.isDone : Phase → Bool
  | .done => true
  | _ => false

def Phase.raisedText : Phase → Option String
  | .raised text => some text
  | _ => none

def step (s : RunState) : Event → Option RunState
  | .begin i =>
      match s.batch[i]? with
      | some ⟨node, .queued⟩ =>
          some (s.setPhase i ⟨node, .queued⟩ (beginNode setting s.nodeStates node))
      | _ => none
  | .acquire i =>
      match s.batch[i]? with
      | some ⟨node, .locking key inputs⟩ =>
          if some key ∈ s.batch.map fun task => task.phase.key then none
          else some (s.setPhase i ⟨node, .locking key inputs⟩ (.starting (some key) inputs))
      | _ => none
  | .store i failure =>
      match s.batch[i]? with
      | none => none
      | some task =>
          match nextUpdate task.node task.phase with
          | none => none
          | some (update, phase) => some (s.write setting i task update phase failure)
  | .answer i result =>
      match s.batch[i]? with
      | some ⟨node, .calling key inputs⟩ =>
          some (s.setPhase i ⟨node, .calling key inputs⟩
            (.ending key (normalized setting node result)))
      | _ => none
  | .next =>
      if s.outcome.isNone ∧ ∀ task ∈ s.batch, task.phase.isDone = true then
        some (s.advance setting)
      else none
  | .fail =>
      if s.outcome.isNone then
        match s.batch.findSome? fun task => task.phase.raisedText with
        | none => none
        | some text => some { s with outcome := some {
            status := .failed
            diagnostics := [nodeDiagnostic "graph_run_failed"
              ("Composition graph run failed: " ++ text) none []]
            outputs := [] } }
      else none

def start (nodeStates : String → Option NodeState) : RunState where
  nodeStates := nodeStates
  degree := inDegree setting
  batch := tasksOf setting ((setting.nodes.map Node.id).filter fun id => inDegree setting id = 0)
  completed := []
  invoked := []
  outcome := none

inductive Reachable (nodeStates : String → Option NodeState) : RunState → Prop
  | start : Reachable nodeStates (start setting nodeStates)
  | step {s s' : RunState} {event : Event} (before : Reachable nodeStates s)
      (next : step setting s event = some s') : Reachable nodeStates s'

end MindscapeLocalCore.CompositionGraph.Runner
