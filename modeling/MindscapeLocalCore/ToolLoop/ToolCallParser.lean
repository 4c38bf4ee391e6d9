import MindscapeLocalCore.Library.Json
import MindscapeLocalCore.Library.PythonText

/-!
The tool calls that a response of the model asks for.
-/

namespace MindscapeLocalCore.ToolLoop.ToolCallParser

open Library Library.Json Library.PythonText Library.TextScan

/-- `json.loads` where it does not raise, and the characters of `\w`. -/
structure Platform where
  loads : String → Option Json
  isWord : Char → Bool

structure ToolCall where
  toolSlot : Option Json
  toolName : Option Json
  parameters : Json

inductive ParseError
  | typeError
  | attributeError
  deriving DecidableEq

def toolNameAliases : List (String × String) :=
  [("filesystem.list_files", "filesystem_list_files"),
    ("filesystem.read_file", "filesystem_read_file"),
    ("filesystem.write_file", "filesystem_write_file"),
    ("filesystem.search", "filesystem_search"),
    ("fs.list_files", "filesystem_list_files"),
    ("fs.read_file", "filesystem_read_file"),
    ("fs.write_file", "filesystem_write_file"),
    ("fs.search", "filesystem_search"),
    ("list_files", "filesystem_list_files"),
    ("read_file", "filesystem_read_file"),
    ("write_file", "filesystem_write_file")]

def structuredOutputKeys : List String :=
  ["project_data", "work_rhythm_data", "onboarding_task", "STRUCTURED_OUTPUT"]

variable (p : Platform)

/-! ### Names -/

/-- `normalize_tool_name` of a text. -/
def aliasOf (name : String) : String := (toolNameAliases.lookup name).getD name

/-- `normalize_tool_name`: a list or an object is no key of the aliases. -/
def normalizeToolName : Json → Except ParseError Json
  | .str name => .ok (.str (aliasOf name))
  | .arr _ => .error .typeError
  | .obj _ => .error .typeError
  | name => .ok name

/-! ### Python-style calls -/

def isQuote (c : Char) : Bool := c = '\'' || c = '"'

def readQuoted : List Char → Option (String × List Char)
  | [] => none
  | c :: rest =>
      if isQuote c then
        match run (fun d => ¬ isQuote d) rest with
        | some (text, _ :: after) => some (String.ofList text, after)
        | _ => none
      else none

def simpleArgument (args : List Char) : Option String :=
  match readQuoted (args.dropWhile isSpace) with
  | some (text, after) => if after.all isSpace then some text else none
  | none => none

def readKey (text : List Char) : Option (String × List Char) :=
  match run p.isWord text with
  | some (key, after) =>
      (matchPieces (· == ·) [.spaces, .char '=', .spaces] after).map (String.ofList key, ·)
  | none => none

def readTextArgument (text : List Char) : Option ((String × Json) × List Char) :=
  match readKey p text with
  | some (key, after) => (readQuoted after).map fun (value, rest) => ((key, .str value), rest)
  | none => none

/-- A key with `True` or `False`. -/
def readBoolArgument (text : List Char) : Option ((String × Json) × List Char) :=
  match readKey p text with
  | some (key, after) =>
      match matchPieces (· == ·) (literal "True") after with
      | some rest => some ((key, .bool true), rest)
      | none =>
          (matchPieces (· == ·) (literal "False") after).map fun rest =>
            ((key, .bool false), rest)
  | none => none

def pythonParameters (args : List Char) : Dict :=
  match simpleArgument args with
  | some path => [("path", .str path)]
  | none =>
      let found := findAll (readTextArgument p) args.length args ++
        findAll (readBoolArgument p) args.length args
      found.foldl (fun parameters member => parameters.set member.1 member.2) []

def readCall (name : String) (text : List Char) : Option (List Char × List Char) :=
  match matchPieces (· == ·) (literal name ++ [.spaces, .char '(']) text with
  | some args =>
      match args.dropWhile (· ≠ ')') with
      | _ :: after => some (args.takeWhile (· ≠ ')'), after)
      | [] => none
  | none => none

def parsePythonStyleToolCall (text : String) : List ToolCall :=
  toolNameAliases.flatMap fun (name, canonicalName) =>
    (findAllIn (readCall name) text).filterMap fun args =>
      match pythonParameters p args with
      | [] => none
      | parameters => some ⟨none, some (.str canonicalName), .obj parameters⟩

/-! ### Payloads -/

def normalizeToolEntry (result : Dict) : Except ParseError Dict :=
  match result.get? "tool_name" with
  | none => .ok result
  | some toolName =>
      if toolName.truthy then do
        let normalizedName ← normalizeToolName toolName
        return result.set "tool_name" normalizedName
      else .ok result

/-- `parameters`, `args`, or no parameters. -/
def parametersOrArgs (data : Dict) : Json :=
  (data.get? "parameters").getD ((data.get? "args").getD (.obj []))

def toToolCallPayload (toolData : Dict) : Except ParseError (Option ToolCall) :=
  match toolData.get? "tool_slot" with
  | some toolSlot => .ok (some ⟨some toolSlot, none, parametersOrArgs toolData⟩)
  | none =>
      if toolData.has "tool_name" then do
        let normalized ← normalizeToolEntry toolData
        return some ⟨none, normalized.get? "tool_name", parametersOrArgs normalized⟩
      else .ok none

def ToolCall.toDict (call : ToolCall) : Dict :=
  let named := match call.toolSlot, call.toolName with
    | some toolSlot, _ => [("tool_slot", toolSlot)]
    | none, some toolName => [("tool_name", toolName)]
    | none, none => []
  ("parameters", call.parameters) :: named

def looksLikeStructuredOutput (data : Dict) : Bool := structuredOutputKeys.any data.has

/-- An entry under one of the keys that stand for `tool_call`, or the first of `tool_calls`. -/
def entryOf (data : Dict) : Except ParseError (Option Dict) :=
  let parameters := (data.get? "parameters").getD (.obj [])
  match data.get? "tool_slot", data.get? "tool_name" with
  | some toolSlot, _ => .ok (some [("parameters", parameters), ("tool_slot", toolSlot)])
  | none, some toolName =>
      (normalizeToolEntry [("parameters", parameters), ("tool_name", toolName)]).map some
  | none, none => .ok none

def mayHaveCall (text : String) : Bool :=
  ["filesystem_", "read_file", "write_file", "list_files"].any fun tool =>
    occurs (· == ·) (literal tool) text

/-- One of the keys that stand for `tool_call`. -/
def altEntry (parsedJson : Dict) (altKey : String) : Except ParseError (Option Dict) :=
  match parsedJson.get? altKey with
  | some (.obj data) => entryOf data
  | some (.str text) =>
      .ok (if mayHaveCall text then
        (parsePythonStyleToolCall p text).head?.map ToolCall.toDict
      else none)
  | _ => .ok none

def firstAltEntry (parsedJson : Dict) : List String → Except ParseError (Option Dict)
  | [] => .ok none
  | altKey :: altKeys => do
      match ← altEntry p parsedJson altKey with
      | some entry => return some entry
      | none => firstAltEntry parsedJson altKeys

/-- The first of `tool_calls`. -/
def firstOfCalls (parsedJson : Dict) : Except ParseError (Option Dict) :=
  match parsedJson.get? "tool_calls" with
  | some (.arr (.obj first :: _)) => do
      match ← entryOf first with
      | some entry => return some entry
      | none =>
          match Dict.get? first "tool_call" with
          | some (.obj nested) => return (← toToolCallPayload nested).map ToolCall.toDict
          | _ => return none
  | _ => .ok none

/-- `normalize_tool_call_json` of an object. -/
def normalizeToolCallJson (parsedJson : Dict) : Except ParseError (Option Dict) :=
  match parsedJson.get? "tool_call" with
  | some (.obj toolCall) => (normalizeToolEntry toolCall).map some
  | _ => do
      match ← firstAltEntry p parsedJson ["tool_code", "tool_command", "function_call", "call"] with
      | some entry => return some entry
      | none => firstOfCalls parsedJson

/-! ### JSON in a response -/

def withoutFence (response : String) : String :=
  let cleaned := (strip response).toList
  if startsWith "```" (strip response) then
    let opened := match find '\n' cleaned with
      | some i => if 0 < i then (strip (String.ofList (cleaned.drop i))).toList else cleaned
      | none => cleaned
    if startsWith "```" (String.ofList opened.reverse) then
      strip (String.ofList (opened.take (opened.length - 3)))
    else String.ofList opened
  else strip response

def between (first last : Char) (text : List Char) : Option (List Char) :=
  match find first text, rfind last text with
  | some start, some stop =>
      if start < stop + 1 then some ((text.take (stop + 1)).drop start) else none
  | _, _ => none

def shorterObject (text : List Char) : Option Dict :=
  ((List.range text.length).reverse.filter (2 ≤ · + 1)).findSome? fun n =>
    match p.loads (String.ofList (text.take (n + 1))) with
    | some (.obj parsed) => some parsed
    | _ => none

/-- `parse_json_from_llm_response`: what the whole response is, or an object in it. -/
def parseJsonFromLlmResponse (response : String) : Option Json :=
  if response = "" then none
  else
    match p.loads response with
    | some parsed => some parsed
    | none =>
        match between '\x7b' '\x7d' (withoutFence response).toList with
        | some text =>
            match p.loads (String.ofList text) with
            | some (.obj parsed) => some (.obj parsed)
            | some _ => none
            | none => (shorterObject p text).map Json.obj
        | none => none

def parseJsonArrayFromLlmResponse (response : String) : Option (List Json) :=
  if response = "" then none
  else
    match p.loads response with
    | some (.arr items) => some items
    | _ =>
        match between '[' ']' (withoutFence response).toList with
        | some text =>
            match p.loads (String.ofList text) with
            | some (.arr items) => some items
            | _ => none
        | none => none

/-! ### Responses -/

/-- A slot or a name that is a text, in an object that is no structured output. -/
def plainCall (data : Dict) : Option ToolCall :=
  match data.get? "tool_slot", data.get? "tool_name" with
  | some (.str toolSlot), _ => some ⟨some (.str toolSlot), none, parametersOrArgs data⟩
  | _, some (.str toolName) => some ⟨none, some (.str (aliasOf toolName)), parametersOrArgs data⟩
  | _, _ => none

def normalizedCall (parsed : Dict) : Except ParseError (Option ToolCall) := do
  match ← normalizeToolCallJson p parsed with
  | some (member :: members) => toToolCallPayload (member :: members)
  | _ => return none

/-- The call under `tool_call`, where it is an object. -/
def nestedCall (data : Dict) : Except ParseError (Option ToolCall) :=
  match data.get? "tool_call" with
  | some (.obj toolCall) => toToolCallPayload toolCall
  | _ => .ok none

def wholeCall : Json → Except ParseError (Option ToolCall)
  | .obj parsed => do
      match ← normalizedCall p parsed with
      | some call => return some call
      | none =>
          match ← nestedCall parsed with
          | some call => return some call
          | none => return if looksLikeStructuredOutput parsed then none else plainCall parsed
  | parsed => if parsed.truthy then .error .attributeError else .ok none

def itemCall : Json → Except ParseError (Option ToolCall)
  | .obj item =>
      match Dict.get? item "tool_call" with
      | some (.obj toolCall) => toToolCallPayload toolCall
      | _ => .ok (plainCall item)
  | _ => .ok none

def blockCall (block : String) : Except ParseError (Option ToolCall) :=
  match parseJsonFromLlmResponse p block with
  | some (.obj []) => .ok none
  | some (.obj parsed) => do
      match ← normalizedCall p parsed with
      | some call => return some call
      | none =>
          match Dict.get? parsed "tool_call" with
          | some (.obj toolCall) => toToolCallPayload toolCall
          | _ => return if looksLikeStructuredOutput parsed then none else plainCall parsed
  | some parsed => if parsed.truthy then .error .attributeError else .ok none
  | none => .ok none

/-- The calls of a list up to the first that raises, and whether one does. -/
def collect {α : Type} (callOf : α → Except ParseError (Option ToolCall)) :
    List α → List ToolCall × Bool
  | [] => ([], false)
  | item :: items =>
      match callOf item with
      | .error _ => ([], true)
      | .ok call =>
          let (calls, raised) := collect callOf items
          (call.toList ++ calls, raised)

def readBlock (text : List Char) : Option (String × List Char) :=
  match matchPieces (· == ·) (literal "```") text with
  | none => none
  | some opened =>
      let inner := ((matchPieces (· == ·) (literal "json") opened).getD opened).dropWhile isSpace
      match inner with
      | '\x7b' :: _ =>
          (List.range inner.length).findSome? fun n =>
            if inner[n]? = some '\x7d' then
              (matchPieces (· == ·) (.spaces :: literal "```") (inner.drop (n + 1))).map
                (String.ofList (inner.take (n + 1)), ·)
            else none
      | _ => none

def parseToolCallsFromResponse (assistantMessage : String) : List ToolCall :=
  match (parseJsonFromLlmResponse p assistantMessage).elim (.ok none) (wholeCall p) with
  | .error _ => []
  | .ok (some call) => [call]
  | .ok none =>
      let (calls, raised) :=
        collect itemCall ((parseJsonArrayFromLlmResponse p assistantMessage).getD [])
      if calls ≠ [] ∨ raised then calls
      else
        let (calls, raised) := collect (blockCall p) (findAllIn readBlock assistantMessage)
        if calls ≠ [] ∨ raised then calls else parsePythonStyleToolCall p assistantMessage

end MindscapeLocalCore.ToolLoop.ToolCallParser
