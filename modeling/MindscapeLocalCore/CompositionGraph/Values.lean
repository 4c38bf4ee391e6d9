import Mathlib.Algebra.Group.Int.Defs
import MindscapeLocalCore.Library.ItemDict

/-!
The values of Python that node executors take and return, and what the runner keeps of a
result.
-/

namespace MindscapeLocalCore.CompositionGraph.Values

open Library

/-- A float is known by the text that it prints as, a value of any other type by a name. -/
inductive Value where
  | none
  | bool (value : Bool)
  | int (value : ℤ)
  | float (text : String)
  | str (text : String)
  | list (items : List Value)
  | dict (items : List (Value × Value))
  | object (name : String)

/-- The items of a `dict`. -/
abbrev Items := List (Value × Value)

/-- `items.get(key)`. -/
def get (key : String) : Items → Option Value
  | [] => Option.none
  | (.str k, value) :: rest => if k = key then some value else get key rest
  | _ :: rest => get key rest

inductive Severity where
  | error
  | warning
  | info
deriving DecidableEq

/-- `CompositionGraphDiagnostic` -/
structure Diagnostic where
  code : String
  message : String
  severity : Severity := .error
  nodeId : Option String := Option.none
  edgeId : Option String := Option.none
  portId : Option String := Option.none
  metadata : List (String × Value) := []

/-- What values other than the built-in ones do; a failure is the text of the exception. -/
structure Objects where
  /-- `bool(value)` of an object -/
  truth : String → Except String Bool
  /-- `str(value)` of a list, a dictionary or an object -/
  str : Value → Except String String
  /-- `list(value)` of an object -/
  list : String → Except String (List Value)
  /-- `dict(value)` of a value that is no dictionary -/
  dict : Value → Except String Items
  /-- `CompositionGraphDiagnostic.model_validate` of a dictionary -/
  validate : Items → Except String Diagnostic
  /-- the diagnostic that an object is -/
  diagnostic : String → Option Diagnostic
  /-- how deep calls may nest -/
  recursionLimit : ℕ

variable (objects : Objects)

/-- `bool(value)`. -/
def truth : Value → Except String Bool
  | .none => .ok false
  | .bool value => .ok value
  | .int value => .ok (value != 0)
  | .float text => .ok (text != "0.0" && text != "-0.0")
  | .str text => .ok (text != "")
  | .list items => .ok (!items.isEmpty)
  | .dict items => .ok (!items.isEmpty)
  | .object name => objects.truth name

/-- `str(value)`. -/
def str : Value → Except String String
  | .none => .ok "None"
  | .bool value => .ok (if value then "True" else "False")
  | .int value => .ok (toString value)
  | .float text => .ok text
  | .str text => .ok text
  | value => objects.str value

/-- `result.get(key) or default`. -/
def getOr (result : Items) (key : String) (default : Value) : Except String Value :=
  match get key result with
  | Option.none => .ok default
  | some value => do
      let kept ← truth objects value
      return if kept then value else default

/-- `list(value)`. -/
def listOf : Value → Except String (List Value)
  | .none => .error "'NoneType' object is not iterable"
  | .bool _ => .error "'bool' object is not iterable"
  | .int _ => .error "'int' object is not iterable"
  | .float _ => .error "'float' object is not iterable"
  | .str text => .ok (text.toList.map fun c => .str (String.singleton c))
  | .list items => .ok items
  | .dict items => .ok (items.map Prod.fst)
  | .object name => objects.list name

/-- `dict(value)`. -/
def dictOf : Value → Except String Items
  | .dict items => .ok items
  | value => objects.dict value

def diagnosticsOf : List Value → Except String (List Diagnostic)
  | [] => .ok []
  | .dict items :: rest => do
      let first ← objects.validate items
      let others ← diagnosticsOf rest
      return first :: others
  | .object name :: rest => do
      let others ← diagnosticsOf rest
      return (objects.diagnostic name).toList ++ others
  | _ :: rest => diagnosticsOf rest

/-- `CompositionGraphRunNodeStatus` -/
inductive NodeStatus where
  | pending
  | running
  | waiting
  | succeeded
  | failed
  | skipped
deriving DecidableEq

structure NodeResult where
  status : NodeStatus
  outputs : Items
  diagnostics : List Diagnostic
  metadata : Items

/-- The status that a text names; what is none of the four is `failed`. -/
def statusOf (text : String) : NodeStatus :=
  if text = "succeeded" then .succeeded
  else if text = "waiting" then .waiting
  else if text = "skipped" then .skipped
  else .failed

def normalizeNodeResult (nodeId : String) : Value → Except String NodeResult
  | .dict result => do
      let status ← getOr objects result "status" (.str "succeeded")
      let text ← str objects status
      let listed ← getOr objects result "diagnostics" (.list [])
      let items ← listOf objects listed
      let diagnostics ← diagnosticsOf objects items
      let outputs ← getOr objects result "outputs" (.dict [])
      let outputItems ← dictOf objects outputs
      let metadata ← getOr objects result "metadata" (.dict [])
      let metadataItems ← dictOf objects metadata
      return {
        status := statusOf text
        outputs := outputItems
        diagnostics := diagnostics
        metadata := metadataItems }
  | _ => .ok {
      status := .failed
      outputs := []
      diagnostics := [{
        code := "invalid_node_executor_result"
        message := "Node executor must return an object."
        nodeId := some nodeId }]
      metadata := [] }

/-- `_sanitize_value`, as deep as calls may nest. -/
def sanitizeValue : ℕ → Value → Except String Value
  | 0, _ => .error "maximum recursion depth exceeded"
  | depth + 1, value =>
      match value with
      | .str text =>
          .ok (if text.length ≤ 4096 then value else .str (String.ofList (text.toList.take 4096)))
      | .list items => do
          let sanitized ← (items.take 1000).mapM (sanitizeValue depth)
          return .list sanitized
      | .dict items => do
          let sanitized ← items.mapM fun item => do
            let key ← str objects item.1
            let kept ← sanitizeValue depth item.2
            return (key, kept)
          return .dict ((ItemDict.updateItems sanitized []).map fun item => (.str item.1, item.2))
      | .object _ => do
          let text ← str objects value
          return .str text
      | _ => .ok value

def sanitizeOutputs (outputs : Items) : Except String Items :=
  outputs.mapM fun item => do
    let kept ← sanitizeValue objects objects.recursionLimit item.2
    return (item.1, kept)

variable {objects}

theorem bind_eq_ok {α β : Type} {x : Except String α} {f : α → Except String β} {b : β}
    (h : (x >>= f) = .ok b) : ∃ a, x = .ok a ∧ f a = .ok b := by
  match x, h with
  | .ok a, h => exact ⟨a, rfl, h⟩

end MindscapeLocalCore.CompositionGraph.Values
