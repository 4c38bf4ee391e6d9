import MindscapeLocalCore.Lens.Resolver

/-!
Changesets of a session: what it changes against the lens without it, written to the workspace or
to the preset, and the lens that is effective afterwards.
-/

namespace MindscapeLocalCore.Lens.ChangeSets

open Library Library.ItemDict Resolver

/-! ### Changesets -/

structure NodeChange where
  nodeId : String
  nodeLabel : String
  fromState : LensNodeState
  toState : LensNodeState

structure ChangeSet where
  profileId : String
  sessionId : String
  workspaceId : Option String
  changes : List NodeChange
  summary : String

/-- The labels of the changes of a kind, when there are any. -/
def summaryPart (verb : String) (labels : List String) : List String :=
  if labels = [] then [] else [verb ++ "「" ++ ", ".intercalate labels ++ "」"]

def generateSummary (changes : List NodeChange) : String :=
  let labels (kind : NodeChange → Bool) := (changes.filter kind).map NodeChange.nodeLabel
  let parts :=
    summaryPart "強化了" (labels fun change => change.toState = .emphasize) ++
      summaryPart "弱化了" (labels fun change =>
        change.toState = .keep && change.fromState = .emphasize) ++
      summaryPart "關閉了" (labels fun change => change.toState = .off)
  if parts = [] then "無變更" else "；".intercalate parts

/-- `{n.node_id: n.state for n in nodes}` -/
def stateMap (nodes : List LensNode) : List (String × LensNodeState) :=
  updateItems (nodes.map fun node => (node.nodeId, node.state)) []

def changesOf (baseline current : List LensNode) : List NodeChange :=
  let baselineMap := stateMap baseline
  (stateMap current).filterMap fun item =>
    match getItem item.1 baselineMap with
    | none => none
    | some baselineState =>
        if baselineState = item.2 then none
        else
          some
            { nodeId := item.1
              nodeLabel := ((current.find? fun node => node.nodeId = item.1).map
                LensNode.nodeLabel).getD item.1
              fromState := baselineState
              toState := item.2 }

variable (store : GraphStore) (sessions : SessionStore)

def createChangeset (profileId sessionId : String) (workspaceId : Option String) :
    Except String ChangeSet := do
  let baseline ← resolve store sessions profileId workspaceId none
  let current ← resolve store sessions profileId workspaceId (some sessionId)
  let changes := changesOf baseline.nodes current.nodes
  return {
    profileId := profileId
    sessionId := sessionId
    workspaceId := workspaceId
    changes := changes
    summary := generateSummary changes }

def overrideAll (workspaceId : String) (changes : List NodeChange) : GraphStore :=
  changes.foldl (fun store change =>
    setWorkspaceOverride store workspaceId change.nodeId change.toState) store

def upsertAll (presetId : String) (changes : List NodeChange) : GraphStore :=
  changes.foldl (fun store change =>
    upsertLensProfileNode store presetId change.nodeId change.toState) store

def applyChangeset (changeset : ChangeSet) (applyTo : String)
    (targetWorkspaceId : Option String) : Except String GraphStore :=
  if applyTo = "session_only" then .ok store
  else if applyTo = "workspace" then
    match (given targetWorkspaceId).or (given changeset.workspaceId) with
    | none => .error "workspace_id required for workspace apply"
    | some workspaceId => .ok (overrideAll store workspaceId changeset.changes)
  else if applyTo = "preset" then
    match getActiveLens store changeset.profileId changeset.workspaceId with
    | none => .error ("No active preset found for profile " ++ changeset.profileId)
    | some preset => .ok (upsertAll store preset.id changeset.changes)
  else .error ("Unknown apply_to: " ++ applyTo)

/-! ### States of nodes -/

def states (lens : EffectiveLens) : List (String × LensNodeState) :=
  lens.nodes.map fun node => (node.nodeId, node.state)

def overrideOf (workspaceId : Option String) (nodeId : String) : Option LensNodeState :=
  getItem nodeId (workspaceStates store workspaceId)

def layered (presetId : String) (workspaceId sessionId : Option String) (nodeId : String) :
    LensNodeState :=
  ((getItem nodeId (sessionStates sessions sessionId)).or
    ((overrideOf store workspaceId nodeId).or
      (getItem (presetId, nodeId) store.profileNodes))).getD .keep

variable {store sessions} {profileId sessionId presetId owner nodeId : String}
variable {workspaceId : Option String} {changes : List NodeChange}

theorem layered_none :
    layered store sessions presetId workspaceId none nodeId =
      ((overrideOf store workspaceId nodeId).or
        (getItem (presetId, nodeId) store.profileNodes)).getD .keep := rfl

theorem resolve_eq_ok {preset : MindLensProfile}
    (h : getActiveLens store profileId workspaceId = some preset) (sessions : SessionStore)
    (sessionId : Option String) :
    ∃ lens, resolve store sessions profileId workspaceId sessionId = .ok lens ∧
      states lens = (listNodes store profileId 10000).map fun node =>
        (node.id, layered store sessions preset.id workspaceId sessionId node.id) := by
  rw [resolve, h]
  refine ⟨_, rfl, ?_⟩
  rw [states, List.map_map]
  refine List.map_congr_left fun node _ => ?_
  show ((mergeNodeState _ _ _ _).nodeId, (mergeNodeState _ _ _ _).state) = _
  rw [nodeId_mergeNodeState, state_mergeNodeState, getItem_statesOf store.profileNode_keys]
  rfl

theorem nodup_listNodes (limit : ℕ) :
    ((listNodes store profileId limit).map GraphNode.id).Nodup := by
  have hperm : (Sorting.sortBy (· ≥ ·) GraphNode.createdAt (store.nodes.filter fun node =>
      node.profileId = profileId ∧ node.isActive = true)).Perm _ := Sorting.perm_sortBy _
  have hsorted : ((Sorting.sortBy (· ≥ ·) GraphNode.createdAt (store.nodes.filter fun node =>
      node.profileId = profileId ∧ node.isActive = true)).map GraphNode.id).Nodup :=
    (hperm.map _).nodup_iff.mpr (store.node_keys.sublist (List.filter_sublist.map _))
  exact hsorted.sublist ((List.take_sublist _ _).map _)

/-! ### Writes -/

def written (change : NodeChange) : String × LensNodeState := (change.nodeId, change.toState)

theorem getItem_foldl_setItem (rows : List ((String × String) × LensNodeState)) :
    getItem (owner, nodeId) (changes.foldl (fun rows change =>
        setItem (owner, change.nodeId) change.toState rows) rows) =
      (getItem nodeId (changes.map written).reverse).or (getItem (owner, nodeId) rows) := by
  induction changes using List.reverseRecOn with
  | nil => rfl
  | append_singleton changes change ih =>
      rw [List.foldl_append, List.map_append, List.reverse_append]
      show getItem (owner, nodeId) (setItem (owner, change.nodeId) change.toState _) =
        (getItem nodeId (written change :: (changes.map written).reverse)).or _
      rw [getItem_setItem, ih, getItem_cons, written]
      by_cases h : nodeId = change.nodeId
      · rw [if_pos (congrArg _ h), if_pos h]
        rfl
      · have hpair : (owner, nodeId) ≠ (owner, change.nodeId) := fun heq => h (Prod.mk.inj heq).2
        rw [if_neg hpair, if_neg h]

theorem overrides_overrideAll :
    (overrideAll store owner changes).overrides = changes.foldl (fun rows change =>
      setItem (owner, change.nodeId) change.toState rows) store.overrides := by
  induction changes generalizing store with
  | nil => rfl
  | cons change changes ih => exact ih

theorem profileNodes_upsertAll :
    (upsertAll store owner changes).profileNodes = changes.foldl (fun rows change =>
      setItem (owner, change.nodeId) change.toState rows) store.profileNodes := by
  induction changes generalizing store with
  | nil => rfl
  | cons change changes ih => exact ih

theorem overrideAll_frame :
    (overrideAll store owner changes).nodes = store.nodes ∧
      (overrideAll store owner changes).lenses = store.lenses ∧
      (overrideAll store owner changes).bindings = store.bindings ∧
      (overrideAll store owner changes).profileNodes = store.profileNodes := by
  induction changes generalizing store with
  | nil => exact ⟨rfl, rfl, rfl, rfl⟩
  | cons change changes ih => exact ih

theorem upsertAll_frame :
    (upsertAll store owner changes).nodes = store.nodes ∧
      (upsertAll store owner changes).lenses = store.lenses ∧
      (upsertAll store owner changes).bindings = store.bindings ∧
      (upsertAll store owner changes).overrides = store.overrides := by
  induction changes generalizing store with
  | nil => exact ⟨rfl, rfl, rfl, rfl⟩
  | cons change changes ih => exact ih

/-! ### Differences -/

theorem stateMap_eq {nodes : List LensNode} (h : (nodes.map LensNode.nodeId).Nodup) :
    stateMap nodes = nodes.map fun node => (node.nodeId, node.state) := by
  refine updateItems_nil_of_nodup ?_
  rw [List.map_map]
  exact h

section Differences

variable {rows : List GraphNode} {baseline current : List LensNode}
  {before after : String → LensNodeState}

theorem stateMap_of_rows (hrows : (rows.map GraphNode.id).Nodup)
    (h : (current.map fun node => (node.nodeId, node.state)) =
      rows.map fun node => (node.id, after node.id)) :
    stateMap current = rows.map fun node => (node.id, after node.id) := by
  rw [stateMap_eq, h]
  have hids := congrArg (List.map Prod.fst) h
  rw [List.map_map, List.map_map] at hids
  show (current.map LensNode.nodeId).Nodup
  rw [show current.map LensNode.nodeId = rows.map GraphNode.id from hids]
  exact hrows

theorem map_written_changesOf (hrows : (rows.map GraphNode.id).Nodup)
    (hbaseline : (baseline.map fun node => (node.nodeId, node.state)) =
      rows.map fun node => (node.id, before node.id))
    (hcurrent : (current.map fun node => (node.nodeId, node.state)) =
      rows.map fun node => (node.id, after node.id)) :
    (changesOf baseline current).map written =
      (rows.filter fun node => before node.id ≠ after node.id).map fun node =>
        (node.id, after node.id) := by
  have hlookup : ∀ node ∈ rows,
      getItem node.id (rows.map fun node => (node.id, before node.id)) =
        some (before node.id) := by
    intro node hnode
    refine getItem_of_mem ?_ (List.mem_map.mpr ⟨node, hnode, rfl⟩)
    rw [List.map_map]
    exact hrows
  simp only [changesOf]
  rw [stateMap_of_rows hrows hbaseline, stateMap_of_rows hrows hcurrent, List.map_filterMap,
    List.filterMap_map]
  generalize rows.map (fun node => (node.id, before node.id)) = baselineMap at hlookup
  clear hrows hbaseline hcurrent
  induction rows with
  | nil => rfl
  | cons node rows ih =>
      obtain ⟨hnode, hrest⟩ := List.forall_mem_cons.mp hlookup
      rw [List.filterMap_cons, ih hrest, List.filter_cons]
      simp only [Function.comp_apply, hnode]
      by_cases h : before node.id = after node.id
      · simp [h]
      · simp [h, written]

theorem getItem_changesOf (hrows : (rows.map GraphNode.id).Nodup)
    (hbaseline : (baseline.map fun node => (node.nodeId, node.state)) =
      rows.map fun node => (node.id, before node.id))
    (hcurrent : (current.map fun node => (node.nodeId, node.state)) =
      rows.map fun node => (node.id, after node.id))
    {node : GraphNode} (hnode : node ∈ rows) :
    getItem node.id ((changesOf baseline current).map written).reverse =
      if before node.id = after node.id then none else some (after node.id) := by
  rw [map_written_changesOf hrows hbaseline hcurrent]
  have hnodup : (((rows.filter fun node => before node.id ≠ after node.id).map fun node =>
      (node.id, after node.id)).reverse.map Prod.fst).Nodup := by
    rw [List.map_reverse, List.nodup_reverse, List.map_map]
    exact hrows.sublist (List.filter_sublist.map _)
  split
  · rename_i heq
    rw [getItem_eq_none_iff, List.map_reverse, List.mem_reverse, List.map_map]
    intro hmem
    obtain ⟨other, hother, hid⟩ := List.mem_map.mp hmem
    obtain ⟨-, hne⟩ := List.mem_filter.mp hother
    have hid : other.id = node.id := hid
    rw [hid] at hne
    exact of_decide_eq_true hne heq
  · rename_i hne
    refine getItem_of_mem hnodup (List.mem_reverse.mpr (List.mem_map.mpr ⟨node, ?_, rfl⟩))
    exact List.mem_filter.mpr ⟨hnode, decide_eq_true hne⟩

end Differences

/-! ### Applied changesets -/

theorem getActiveLens_congr {store' : GraphStore} (hlenses : store'.lenses = store.lenses)
    (hbindings : store'.bindings = store.bindings) :
    getActiveLens store' profileId workspaceId = getActiveLens store profileId workspaceId := by
  rw [getActiveLens, getActiveLens, hlenses, hbindings]

theorem listNodes_congr {store' : GraphStore} (hnodes : store'.nodes = store.nodes) (limit : ℕ) :
    listNodes store' profileId limit = listNodes store profileId limit := by
  rw [listNodes, listNodes, hnodes]

theorem getActiveLens_of_resolve {lens : EffectiveLens} {session : Option String}
    (h : resolve store sessions profileId workspaceId session = .ok lens) :
    ∃ preset, getActiveLens store profileId workspaceId = some preset := by
  rw [resolve] at h
  split at h
  · cases h
  · rename_i preset hpreset
    exact ⟨preset, hpreset⟩

theorem createChangeset_eq_ok {preset : MindLensProfile}
    (h : getActiveLens store profileId workspaceId = some preset) (sessions : SessionStore)
    (sessionId : String) :
    ∃ changeset, createChangeset store sessions profileId sessionId workspaceId = .ok changeset ∧
      changeset.profileId = profileId ∧ changeset.workspaceId = workspaceId ∧
      ∀ node ∈ listNodes store profileId 10000,
        getItem node.id (changeset.changes.map written).reverse =
          if layered store sessions preset.id workspaceId none node.id =
              layered store sessions preset.id workspaceId (some sessionId) node.id then none
          else some (layered store sessions preset.id workspaceId (some sessionId) node.id) := by
  obtain ⟨baseline, hbaseline, hbefore⟩ := resolve_eq_ok h sessions none
  obtain ⟨current, hcurrent, hafter⟩ := resolve_eq_ok h sessions (some sessionId)
  rw [createChangeset, hbaseline, hcurrent]
  refine ⟨_, rfl, rfl, rfl, fun node hnode => ?_⟩
  exact getItem_changesOf (nodup_listNodes 10000) hbefore hafter hnode

theorem overrideOf_overrideAll {workspace : String} (h : given workspaceId = some workspace) :
    overrideOf (overrideAll store workspace changes) workspaceId nodeId =
      (getItem nodeId (changes.map written).reverse).or
        (overrideOf store workspaceId nodeId) := by
  rw [overrideOf, overrideOf, workspaceStates, workspaceStates, h]
  show getItem nodeId (statesOf workspace _) = Option.or _ (getItem nodeId (statesOf workspace _))
  rw [getItem_statesOf (overrideAll store workspace changes).override_keys,
    getItem_statesOf store.override_keys, overrides_overrideAll, getItem_foldl_setItem]

theorem overrideOf_upsertAll :
    overrideOf (upsertAll store presetId changes) workspaceId nodeId =
      overrideOf store workspaceId nodeId := by
  rw [overrideOf, overrideOf, workspaceStates, workspaceStates, upsertAll_frame.2.2.2]

section Applied

variable {node : GraphNode} {preset : MindLensProfile}

theorem layered_overrideAll {workspace : String} (h : given workspaceId = some workspace)
    (hchanges : getItem nodeId (changes.map written).reverse =
      if layered store sessions presetId workspaceId none nodeId =
          layered store sessions presetId workspaceId (some sessionId) nodeId then none
      else some (layered store sessions presetId workspaceId (some sessionId) nodeId)) :
    layered (overrideAll store workspace changes) sessions presetId workspaceId none nodeId =
      layered store sessions presetId workspaceId (some sessionId) nodeId := by
  rw [layered_none, overrideOf_overrideAll h, overrideAll_frame.2.2.2, hchanges]
  split
  · rename_i heq
    rw [Option.none_or, ← heq]
    exact layered_none.symm
  · rfl

theorem layered_upsertAll
    (hchanges : getItem nodeId (changes.map written).reverse =
      if layered store sessions presetId workspaceId none nodeId =
          layered store sessions presetId workspaceId (some sessionId) nodeId then none
      else some (layered store sessions presetId workspaceId (some sessionId) nodeId)) :
    layered (upsertAll store presetId changes) sessions presetId workspaceId none nodeId =
      (overrideOf store workspaceId nodeId).getD
        (layered store sessions presetId workspaceId (some sessionId) nodeId) := by
  rw [layered_none, overrideOf_upsertAll, profileNodes_upsertAll, getItem_foldl_setItem, hchanges]
  cases hoverride : overrideOf store workspaceId nodeId with
  | some state => rfl
  | none =>
      split
      · rename_i heq
        rw [Option.getD_none, ← heq, layered_none, hoverride]
        rfl
      · rfl

theorem getD_override_eq_iff :
    (overrideOf store workspaceId nodeId).getD
        (layered store sessions presetId workspaceId (some sessionId) nodeId) =
      layered store sessions presetId workspaceId (some sessionId) nodeId ↔
    ∀ override ∈ overrideOf store workspaceId nodeId,
      ∀ state ∈ getItem nodeId (sessionStates sessions (some sessionId)), state = override := by
  rw [layered]
  cases overrideOf store workspaceId nodeId with
  | none => simp
  | some override =>
      cases getItem nodeId (sessionStates sessions (some sessionId)) with
      | none => simp
      | some state => simp [eq_comm]

end Applied

/-- Written to the workspace, a changeset makes the previewed lens effective. Written to the
preset it does so for the nodes that the workspace does not override. -/
theorem applied_changeset {changeset : ChangeSet}
    (h : createChangeset store sessions profileId sessionId workspaceId = .ok changeset) :
    ∃ preview, resolve store sessions profileId workspaceId (some sessionId) = .ok preview ∧
      (given workspaceId ≠ none → ∃ store' after,
        applyChangeset store changeset "workspace" none = .ok store' ∧
        resolve store' sessions profileId workspaceId none = .ok after ∧
        states after = states preview) ∧
      ∃ store' after,
        applyChangeset store changeset "preset" none = .ok store' ∧
        resolve store' sessions profileId workspaceId none = .ok after ∧
        states after = (states preview).map (fun item =>
          (item.1, (overrideOf store workspaceId item.1).getD item.2)) ∧
        (states after = states preview ↔
          ∀ node ∈ listNodes store profileId 10000,
            ∀ override ∈ overrideOf store workspaceId node.id,
            ∀ state ∈ getItem node.id (sessionStates sessions (some sessionId)),
              state = override) := by
  obtain ⟨preset, hpreset⟩ : ∃ preset, getActiveLens store profileId workspaceId = some preset := by
    rw [createChangeset] at h
    cases hbaseline : resolve store sessions profileId workspaceId none with
    | error error =>
        rw [hbaseline] at h
        cases h
    | ok baseline => exact getActiveLens_of_resolve hbaseline
  obtain ⟨created, hcreate, hprofile, hworkspace, hchanges⟩ :=
    createChangeset_eq_ok hpreset sessions sessionId
  obtain rfl : changeset = created := Except.ok.inj (h.symm.trans hcreate)
  obtain ⟨preview, hpreview, hstates⟩ := resolve_eq_ok hpreset sessions (some sessionId)
  refine ⟨preview, hpreview, ?_, ?_⟩
  · intro hgiven
    obtain ⟨workspace, hgiven⟩ := Option.ne_none_iff_exists'.mp hgiven
    have hactive : getActiveLens (overrideAll store workspace changeset.changes) profileId
        workspaceId = some preset :=
      (getActiveLens_congr overrideAll_frame.2.1 overrideAll_frame.2.2.1).trans hpreset
    obtain ⟨after, hafter, hlayers⟩ := resolve_eq_ok hactive sessions none
    refine ⟨overrideAll store workspace changeset.changes, after, ?_, hafter, ?_⟩
    · rw [applyChangeset, hworkspace, hgiven]
      rfl
    · rw [hlayers, hstates, listNodes_congr overrideAll_frame.1]
      refine List.map_congr_left fun node hnode => ?_
      rw [layered_overrideAll hgiven (hchanges node hnode)]
  · have hactive : getActiveLens (upsertAll store preset.id changeset.changes) profileId
        workspaceId = some preset :=
      (getActiveLens_congr upsertAll_frame.2.1 upsertAll_frame.2.2.1).trans hpreset
    obtain ⟨after, hafter, hlayers⟩ := resolve_eq_ok hactive sessions none
    rw [listNodes_congr upsertAll_frame.1] at hlayers
    have hnodes : ∀ node ∈ listNodes store profileId 10000,
        layered (upsertAll store preset.id changeset.changes) sessions preset.id workspaceId none
            node.id =
          (overrideOf store workspaceId node.id).getD
            (layered store sessions preset.id workspaceId (some sessionId) node.id) :=
      fun node hnode => layered_upsertAll (hchanges node hnode)
    refine ⟨upsertAll store preset.id changeset.changes, after, ?_, hafter, ?_, ?_⟩
    · rw [applyChangeset, hprofile, hworkspace, hpreset]
      rfl
    · rw [hlayers, hstates, List.map_map]
      refine List.map_congr_left fun node hnode => ?_
      rw [hnodes node hnode]
      rfl
    · rw [hlayers, hstates, List.map_inj_left]
      refine forall₂_congr fun node hnode => ?_
      rw [Prod.mk.injEq, hnodes node hnode, and_iff_right rfl, getD_override_eq_iff]

/-! ### An overridden node -/

/-- A node that is off in the preset and emphasized in a workspace. -/
def sampleStore : GraphStore where
  nodes :=
    [{ id := "node"
       profileId := "profile"
       label := "Node"
       nodeType := "value"
       category := "direction"
       isActive := true
       createdAt := 0 }]
  lenses := [{ id := "lens", profileId := "profile", name := "Lens", isDefault := true }]
  bindings := []
  profileNodes := [(("lens", "node"), .off)]
  overrides := [(("workspace", "node"), .emphasize)]
  node_keys := List.nodup_singleton _
  profileNode_keys := List.nodup_singleton _
  override_keys := List.nodup_singleton _

def sampleSessions : SessionStore := [("session", [("node", .keep)])]

theorem workspace_apply_sample :
    ∃ changeset preview store' after,
      createChangeset sampleStore sampleSessions "profile" "session" (some "workspace") =
        .ok changeset ∧
      resolve sampleStore sampleSessions "profile" (some "workspace") (some "session") =
        .ok preview ∧
      applyChangeset sampleStore changeset "workspace" none = .ok store' ∧
      resolve store' sampleSessions "profile" (some "workspace") none = .ok after ∧
      states after = states preview := by
  have hactive : getActiveLens sampleStore "profile" (some "workspace") =
      some { id := "lens", profileId := "profile", name := "Lens", isDefault := true } := by
    decide +kernel
  obtain ⟨changeset, hcreate, -⟩ := createChangeset_eq_ok hactive sampleSessions "session"
  obtain ⟨preview, hpreview, hworkspace, -⟩ := applied_changeset hcreate
  obtain ⟨store', after, happly, hafter, hstates⟩ := hworkspace (by decide +kernel)
  exact ⟨changeset, preview, store', after, hcreate, hpreview, happly, hafter, hstates⟩

/-- Written to the preset, what the session keeps stays emphasized by the workspace. -/
theorem preset_apply_hidden :
    (resolve sampleStore sampleSessions "profile" (some "workspace") (some "session")).map states =
        .ok [("node", .keep)] ∧
      ((createChangeset sampleStore sampleSessions "profile" "session"
        (some "workspace")).bind fun changeset =>
          (applyChangeset sampleStore changeset "preset" none).bind fun store' =>
            (resolve store' sampleSessions "profile" (some "workspace") none).map states) =
        .ok [("node", .emphasize)] := by
  constructor
  · decide +kernel
  · decide +kernel

end MindscapeLocalCore.Lens.ChangeSets
