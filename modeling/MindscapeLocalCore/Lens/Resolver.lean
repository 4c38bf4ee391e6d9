import MindscapeLocalCore.KnowledgeAuthorization.Store
import MindscapeLocalCore.Library.ItemDict

/-!
The effective lens of a profile: the states of its preset, of the workspace and of the session,
each before the one below it.
-/

namespace MindscapeLocalCore.Lens.Resolver

open Library Library.ItemDict
open Library.JsonText (renderAscii)
open Library.Sorting
open KnowledgeAuthorization.Store (hexdigest)

inductive LensNodeState where
  | off
  | keep
  | emphasize
  deriving DecidableEq

def LensNodeState.value : LensNodeState → String
  | .off => "off"
  | .keep => "keep"
  | .emphasize => "emphasize"

/-! ### Stores -/

/-- A row of `graph_nodes`. -/
structure GraphNode where
  id : String
  profileId : String
  label : String
  nodeType : String
  category : String
  isActive : Bool
  createdAt : ℤ

/-- A row of `mind_lens_profiles`. -/
structure MindLensProfile where
  id : String
  profileId : String
  name : String
  isDefault : Bool
  deriving DecidableEq

/-- The tables of the lens, with their keys: a workspace has one lens, and a node one state in a
preset and one in a workspace. -/
structure GraphStore where
  nodes : List GraphNode
  lenses : List MindLensProfile
  /-- the lens of each workspace -/
  bindings : List (String × String)
  /-- the states by preset and node -/
  profileNodes : List ((String × String) × LensNodeState)
  /-- the states by workspace and node -/
  overrides : List ((String × String) × LensNodeState)
  node_keys : (nodes.map GraphNode.id).Nodup
  profileNode_keys : (profileNodes.map Prod.fst).Nodup
  override_keys : (overrides.map Prod.fst).Nodup

abbrev SessionStore := List (String × List (String × LensNodeState))

variable (store : GraphStore) (sessions : SessionStore)

/-- `list_nodes` of the active nodes of a profile. -/
def listNodes (profileId : String) (limit : ℕ) : List GraphNode :=
  (sortBy (· ≥ ·) GraphNode.createdAt
    (store.nodes.filter fun node => node.profileId = profileId ∧ node.isActive = true)).take limit

def given (text : Option String) : Option String := text.filter fun text => text ≠ ""

local instance lawfulBEq_binding : LawfulBEq (String × String) := inferInstance

/-- `get_active_lens`: the lens of the workspace, else the default one. -/
def getActiveLens (profileId : String) (workspaceId : Option String) : Option MindLensProfile :=
  ((given workspaceId).bind fun workspaceId => store.lenses.find? fun lens =>
    lens.profileId = profileId ∧ (workspaceId, lens.id) ∈ store.bindings).or
    (store.lenses.find? fun lens => lens.profileId = profileId ∧ lens.isDefault = true)

def statesOf (owner : String) (rows : List ((String × String) × LensNodeState)) :
    List (String × LensNodeState) :=
  updateItems ((rows.filter fun row => row.1.1 = owner).map fun row => (row.1.2, row.2)) []

def upsertLensProfileNode (presetId nodeId : String) (state : LensNodeState) : GraphStore :=
  { store with
    profileNodes := setItem (presetId, nodeId) state store.profileNodes
    profileNode_keys := nodup_setItem store.profileNode_keys }

def setWorkspaceOverride (workspaceId nodeId : String) (state : LensNodeState) : GraphStore :=
  { store with
    overrides := setItem (workspaceId, nodeId) state store.overrides
    override_keys := nodup_setItem store.override_keys }

/-! ### Resolution -/

inductive Scope where
  | global
  | workspace
  | session
  deriving DecidableEq

def Scope.value : Scope → String
  | .global => "global"
  | .workspace => "workspace"
  | .session => "session"

structure LensNode where
  nodeId : String
  nodeLabel : String
  nodeType : String
  category : String
  state : LensNodeState
  effectiveScope : Scope
  isOverridden : Bool
  overriddenFrom : Option Scope

def mergeNodeState (node : GraphNode) (globalState workspaceState sessionState :
    Option LensNodeState) : LensNode :=
  let base : LensNode :=
    { nodeId := node.id
      nodeLabel := node.label
      nodeType := node.nodeType
      category := node.category
      state := globalState.getD .keep
      effectiveScope := .global
      isOverridden := false
      overriddenFrom := none }
  let inWorkspace := match workspaceState with
    | none => base
    | some state =>
        { base with
          state := state
          effectiveScope := .workspace
          isOverridden := true
          overriddenFrom := some .global }
  match sessionState with
  | none => inWorkspace
  | some state =>
      { inWorkspace with
        state := state
        effectiveScope := .session
        isOverridden := true
        overriddenFrom := some inWorkspace.effectiveScope }

/-- `", "` and `": "`; the document holds no numbers. -/
def spaced : JsonText.Style where
  itemSeparator := ", "
  keySeparator := ": "
  number _ := ""

def computeLensHash (nodes : List LensNode) : String :=
  let stable := sortBy (· ≤ ·) id (nodes.map fun node =>
    [node.nodeId, node.state.value, node.effectiveScope.value])
  String.ofList ((hexdigest (renderAscii spaced
    (.arr (stable.map fun texts => .arr (texts.map .str))))).toList.take 16)

structure EffectiveLens where
  profileId : String
  workspaceId : Option String
  sessionId : Option String
  nodes : List LensNode
  globalPresetId : String
  globalPresetName : String
  workspaceOverrideCount : ℕ
  sessionOverrideCount : ℕ
  hash : String

def workspaceStates (workspaceId : Option String) : List (String × LensNodeState) :=
  match given workspaceId with
  | none => []
  | some workspaceId => statesOf workspaceId store.overrides

def sessionStates (sessionId : Option String) : List (String × LensNodeState) :=
  match given sessionId with
  | none => []
  | some sessionId => (getItem sessionId sessions).getD []

def resolve (profileId : String) (workspaceId sessionId : Option String) :
    Except String EffectiveLens :=
  match getActiveLens store profileId workspaceId with
  | none => .error ("No active lens found for profile " ++ profileId)
  | some preset =>
      let globals := statesOf preset.id store.profileNodes
      let workspace := workspaceStates store workspaceId
      let session := sessionStates sessions sessionId
      let nodes := (listNodes store profileId 10000).map fun node =>
        mergeNodeState node (getItem node.id globals) (getItem node.id workspace)
          (getItem node.id session)
      .ok
        { profileId := profileId
          workspaceId := workspaceId
          sessionId := sessionId
          nodes := nodes
          globalPresetId := preset.id
          globalPresetName := preset.name
          workspaceOverrideCount := nodes.countP fun node =>
            node.overriddenFrom = some .global ∧ node.effectiveScope = .workspace
          sessionOverrideCount := nodes.countP fun node => node.effectiveScope = .session
          hash := computeLensHash nodes }

/-! ### Layers -/

variable {store sessions}

theorem state_mergeNodeState (node : GraphNode) (globalState workspaceState sessionState :
    Option LensNodeState) :
    (mergeNodeState node globalState workspaceState sessionState).state =
      (sessionState.or (workspaceState.or globalState)).getD .keep := by
  cases sessionState <;> cases workspaceState <;> cases globalState <;> rfl

@[simp] theorem nodeId_mergeNodeState (node : GraphNode) (globalState workspaceState sessionState :
    Option LensNodeState) :
    (mergeNodeState node globalState workspaceState sessionState).nodeId = node.id := by
  cases sessionState <;> cases workspaceState <;> rfl

theorem getItem_statesOf {owner nodeId : String} {rows : List ((String × String) × LensNodeState)}
    (hkeys : (rows.map Prod.fst).Nodup) :
    getItem nodeId (statesOf owner rows) = getItem (owner, nodeId) rows := by
  have hnodup : (((rows.filter fun row => row.1.1 = owner).map fun row =>
      (row.1.2, row.2)).map Prod.fst).Nodup := by
    rw [List.map_map]
    refine List.Nodup.map_on ?_ (List.Nodup.of_map _ (hkeys.sublist (List.filter_sublist.map _)))
    intro row hrow other hother heq
    obtain ⟨hrow, howner⟩ := List.mem_filter.mp hrow
    obtain ⟨hother, howner'⟩ := List.mem_filter.mp hother
    have hkey : row.1 = other.1 :=
      Prod.ext ((of_decide_eq_true howner).trans (of_decide_eq_true howner').symm) heq
    exact List.inj_on_of_nodup_map hkeys hrow hother hkey
  rw [statesOf, updateItems_nil_of_nodup hnodup]
  cases h : getItem (owner, nodeId) rows with
  | some state =>
      refine getItem_of_mem hnodup ?_
      exact List.mem_map.mpr ⟨((owner, nodeId), state),
        List.mem_filter.mpr ⟨mem_of_getItem h, decide_eq_true rfl⟩, rfl⟩
  | none =>
      rw [getItem_eq_none_iff] at h ⊢
      intro hmem
      obtain ⟨item, hitem, hkey⟩ := List.mem_map.mp hmem
      obtain ⟨row, hrow, rfl⟩ := List.mem_map.mp hitem
      obtain ⟨hrow, howner⟩ := List.mem_filter.mp hrow
      refine h (List.mem_map.mpr ⟨row, hrow, ?_⟩)
      exact Prod.ext (of_decide_eq_true howner) hkey

end MindscapeLocalCore.Lens.Resolver
