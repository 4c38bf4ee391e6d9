import MindscapeLocalCore.CompositionGraph.Values
import MindscapeLocalCore.Library.PythonText

/-!
The templates of runtime lock keys.
-/

namespace MindscapeLocalCore.CompositionGraph.RuntimeLock

open Values

def openBrace : Char := '\x7b'

def closeBrace : Char := '\x7d'

/-- What the pattern of `_SUPPORTED_LOCK_TOKEN` cuts a template into: the names between
braces, and the text around them. -/
inductive Piece where
  | text (chars : List Char)
  | token (name : List Char)
deriving DecidableEq

/-- Cut a template, with what stands after the last brace that was opened. -/
def pieces : Option (List Char) → List Char → List Piece
  | none, [] => []
  | some inside, [] => [.text (openBrace :: inside)]
  | none, c :: rest =>
      if c = openBrace then pieces (some []) rest else .text [c] :: pieces none rest
  | some inside, c :: rest =>
      if c = openBrace then .text (openBrace :: inside) :: pieces (some []) rest
      else if c = closeBrace then
        if inside = [] then .text [openBrace, closeBrace] :: pieces none rest
        else .token inside :: pieces none rest
      else pieces (some (inside ++ [c])) rest

def Piece.chars : Piece → List Char
  | .text chars => chars
  | .token name => openBrace :: (name ++ [closeBrace])

variable (objects : Objects)

def payloadPrefix : String := "payload."

/-- `replace` of `render_runtime_lock_key`. -/
def replace (workspaceId : String) (payload : List (String × Value)) (token : List Char) :
    Except String (List Char) :=
  if token = "workspace_id".toList then .ok workspaceId.toList
  else if payloadPrefix.toList <+: token then
    match payload.lookup (String.ofList (token.drop payloadPrefix.length)) with
    | none => .ok []
    | some .none => .ok []
    | some value => do
        let text ← str objects value
        return text.toList
  else .error ("unsupported runtime_lock token: " ++ String.ofList token)

def replacePiece (workspaceId : String) (payload : List (String × Value)) :
    Piece → Except String (List Char)
  | .text chars => .ok chars
  | .token name => replace objects workspaceId payload name

def renderRuntimeLockKey (template workspaceId : String) (payload : List (String × Value)) :
    Except String String := do
  let rendered ← (pieces none template.toList).mapM (replacePiece objects workspaceId payload)
  return String.ofList rendered.flatten

variable {objects}

end MindscapeLocalCore.CompositionGraph.RuntimeLock
