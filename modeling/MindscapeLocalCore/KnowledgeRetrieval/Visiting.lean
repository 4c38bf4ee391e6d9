import MindscapeLocalCore.KnowledgeRetrieval.GraphSearch

/-!
What the rows of a hop make of the nodes and of the edges that were visited before it.
-/

namespace MindscapeLocalCore.KnowledgeRetrieval.Visiting

open Library.ItemDict Tables GraphSearch

variable {maxNodes depth : ℕ} {state : Visited × List String}

/-! ### Nodes -/

/-- The endpoints of a hop were visited: each has a depth unless no node was left, and those that
are new have the depth of the hop. -/
structure Reached (maxNodes depth : ℕ) (depths : List (String × ℕ)) (endpoints : List String)
    (state : Visited × List String) : Prop where
  keys : (state.1.depths.map Prod.fst).Nodup
  nodes : state.1.depths.length ≤ maxNodes
  getItem_iff : ∀ a k, getItem a state.1.depths = some k ↔
    getItem a depths = some k ∨ k = depth ∧ a ∈ state.2
  added : ∀ a ∈ state.2, getItem a depths = none ∧ a ∈ endpoints
  reached : ∀ a ∈ endpoints,
    (∃ k, getItem a state.1.depths = some k) ∨ maxNodes ≤ state.1.depths.length

variable {depths : List (String × ℕ)} {endpoints : List String}

theorem Reached.start (edges : List (String × GraphRelation))
    (hkeys : (depths.map Prod.fst).Nodup) (hnodes : depths.length ≤ maxNodes) :
    Reached maxNodes depth depths [] ({ depths := depths, edges := edges }, []) where
  keys := hkeys
  nodes := hnodes
  getItem_iff a k := by
    constructor
    · exact Or.inl
    · rintro (h | ⟨-, hmem⟩)
      · exact h
      · cases hmem
  added a h := by cases h
  reached a h := by cases h

theorem Reached.setEdges (h : Reached maxNodes depth depths endpoints state)
    (edges : List (String × GraphRelation)) :
    Reached maxNodes depth depths endpoints ({ state.1 with edges := edges }, state.2) where
  keys := h.keys
  nodes := h.nodes
  getItem_iff := h.getItem_iff
  added := h.added
  reached := h.reached

theorem Reached.visitEndpoint (h : Reached maxNodes depth depths endpoints state)
    (endpoint : String) :
    Reached maxNodes depth depths (endpoints ++ [endpoint])
      (visitEndpoint maxNodes depth state endpoint) := by
  rw [GraphSearch.visitEndpoint]
  split
  · rename_i hvisit
    obtain ⟨hfresh, hroom⟩ := hvisit
    have hset : setItem endpoint depth state.1.depths = state.1.depths ++ [(endpoint, depth)] :=
      if_neg hfresh
    have hnone : getItem endpoint state.1.depths = none := getItem_eq_none_iff.mpr hfresh
    have hold : getItem endpoint depths = none := by
      cases hget : getItem endpoint depths with
      | none => rfl
      | some k =>
          rw [(h.getItem_iff endpoint k).mpr (.inl hget)] at hnone
          cases hnone
    refine ⟨?_, ?_, ?_, ?_, ?_⟩
    · show ((setItem endpoint depth state.1.depths).map Prod.fst).Nodup
      rw [hset, List.map_append]
      exact h.keys.append (List.nodup_singleton _) (List.disjoint_singleton.mpr hfresh)
    · show (setItem endpoint depth state.1.depths).length ≤ maxNodes
      rw [hset, List.length_append]
      exact hroom
    · intro a k
      show getItem a (setItem endpoint depth state.1.depths) = some k ↔ _
      rw [getItem_setItem, List.mem_append, List.mem_singleton]
      by_cases ha : a = endpoint
      · rw [if_pos ha, ha, hold, Option.some_inj]
        simp [eq_comm]
      · rw [if_neg ha, h.getItem_iff]
        simp [ha]
    · intro a ha
      rcases List.mem_append.mp ha with hmem | hmem
      · exact ⟨(h.added a hmem).1, List.mem_append_left _ (h.added a hmem).2⟩
      · obtain rfl := List.mem_singleton.mp hmem
        exact ⟨hold, List.mem_append_right _ hmem⟩
    · intro a ha
      show (∃ k, getItem a (setItem endpoint depth state.1.depths) = some k) ∨
        maxNodes ≤ (setItem endpoint depth state.1.depths).length
      rw [getItem_setItem, hset, List.length_append]
      by_cases hend : a = endpoint
      · rw [if_pos hend]
        exact .inl ⟨depth, rfl⟩
      · rw [if_neg hend]
        have hmem : a ∈ endpoints :=
          (List.mem_append.mp ha).resolve_right fun hlast => hend (List.mem_singleton.mp hlast)
        exact (h.reached a hmem).imp_right Nat.le_succ_of_le
  · rename_i hseen
    refine ⟨h.keys, h.nodes, h.getItem_iff, ?_, ?_⟩
    · intro a ha
      exact ⟨(h.added a ha).1, List.mem_append_left _ (h.added a ha).2⟩
    · intro a ha
      rcases List.mem_append.mp ha with hmem | hmem
      · exact h.reached a hmem
      · obtain rfl := List.mem_singleton.mp hmem
        cases hget : getItem a state.1.depths with
        | some k => exact .inl ⟨k, rfl⟩
        | none =>
            refine .inr (Nat.le_of_not_lt fun hroom => hseen ⟨?_, hroom⟩)
            exact getItem_eq_none_iff.mp hget

def ends (relation : GraphRelation) : List String :=
  [relation.sourceEntityId, relation.targetEntityId]

theorem Reached.visitEdge (h : Reached maxNodes depth depths endpoints state)
    (edge : GraphRelation) :
    Reached maxNodes depth depths (endpoints ++ ends edge)
      (visitEdge maxNodes depth state edge) := by
  have hends : endpoints ++ ends edge =
      endpoints ++ [edge.sourceEntityId] ++ [edge.targetEntityId] := by
    rw [List.append_assoc]
    rfl
  rw [hends]
  exact ((h.setEdges _).visitEndpoint edge.sourceEntityId).visitEndpoint edge.targetEntityId

theorem Reached.foldl (h : Reached maxNodes depth depths endpoints state)
    (rows : List GraphRelation) :
    Reached maxNodes depth depths (endpoints ++ rows.flatMap ends)
      (rows.foldl (GraphSearch.visitEdge maxNodes depth) state) := by
  induction rows generalizing endpoints state with
  | nil =>
      rw [List.flatMap_nil, List.append_nil]
      exact h
  | cons edge rows ih =>
      rw [List.flatMap_cons, ← List.append_assoc]
      exact ih (h.visitEdge edge)

/-! ### Edges -/

/-- `edges.setdefault(edge_id, edge)` -/
def keepEdge (edges : List (String × GraphRelation)) (edge : GraphRelation) :
    List (String × GraphRelation) :=
  if edge.relationId ∈ edges.map Prod.fst then edges else edges ++ [(edge.relationId, edge)]

theorem visitEndpoint_edges (endpoint : String) :
    (visitEndpoint maxNodes depth state endpoint).1.edges = state.1.edges := by
  rw [visitEndpoint]
  split
  · rfl
  · rfl

theorem visitEdge_edges (edge : GraphRelation) :
    (visitEdge maxNodes depth state edge).1.edges = keepEdge state.1.edges edge := by
  show (visitEndpoint maxNodes depth (visitEndpoint maxNodes depth _ _) _).1.edges = _
  rw [visitEndpoint_edges, visitEndpoint_edges]
  rfl

structure Kept (relations : List GraphRelation) (edges : List (String × GraphRelation))
    (rows : List GraphRelation) (kept : List (String × GraphRelation)) : Prop where
  keys : (kept.map Prod.fst).Nodup
  count : kept.length ≤ edges.length + rows.length
  mem_iff : ∀ item, item ∈ kept ↔ item ∈ edges ∨ ∃ row ∈ rows, item = (row.relationId, row)
  known : ∀ item ∈ kept, item.2 ∈ relations ∧ item.1 = item.2.relationId

variable {relations rows : List GraphRelation} {edges kept : List (String × GraphRelation)}

theorem Kept.start (hkeys : (edges.map Prod.fst).Nodup)
    (hknown : ∀ item ∈ edges, item.2 ∈ relations ∧ item.1 = item.2.relationId) :
    Kept relations edges [] edges where
  keys := hkeys
  count := Nat.le_refl _
  mem_iff item := by simp
  known := hknown

theorem Kept.keepEdge (hids : (relations.map GraphRelation.relationId).Nodup)
    (h : Kept relations edges rows kept) {edge : GraphRelation} (hedge : edge ∈ relations) :
    Kept relations edges (rows ++ [edge]) (keepEdge kept edge) := by
  have hmem : ∀ item, (item ∈ kept ∨ item = (edge.relationId, edge)) ↔
      item ∈ edges ∨ ∃ row ∈ rows ++ [edge], item = (row.relationId, row) := by
    intro item
    rw [h.mem_iff]
    simp only [List.mem_append, List.mem_singleton, or_and_right, exists_or, exists_eq_left,
      or_assoc]
  have hcount : edges.length + (rows ++ [edge]).length = edges.length + rows.length + 1 := by
    rw [List.length_append]
    rfl
  rw [Visiting.keepEdge]
  split
  · rename_i hseen
    obtain ⟨item, hitem, hid⟩ := List.mem_map.mp hseen
    obtain ⟨hrelation, hkey⟩ := h.known item hitem
    have hsame : item.2 = edge := List.inj_on_of_nodup_map hids hrelation hedge (hkey ▸ hid)
    have hkept : (edge.relationId, edge) ∈ kept := by
      rw [← hsame, ← hkey]
      exact hitem
    refine ⟨h.keys, ?_, ?_, h.known⟩
    · have := h.count
      omega
    · intro item
      rw [← hmem item]
      refine ⟨Or.inl, ?_⟩
      rintro (hold | rfl)
      · exact hold
      · exact hkept
  · rename_i hfresh
    refine ⟨?_, ?_, ?_, ?_⟩
    · rw [List.map_append]
      exact h.keys.append (List.nodup_singleton _) (List.disjoint_singleton.mpr hfresh)
    · have := h.count
      rw [List.length_append, List.length_singleton]
      omega
    · intro item
      rw [← hmem item, List.mem_append, List.mem_singleton]
    · intro item hitem
      rcases List.mem_append.mp hitem with hold | hnew
      · exact h.known item hold
      · obtain rfl := List.mem_singleton.mp hnew
        exact ⟨hedge, rfl⟩

theorem Kept.foldl (hids : (relations.map GraphRelation.relationId).Nodup)
    (h : Kept relations edges rows state.1.edges) {more : List GraphRelation}
    (hmore : ∀ row ∈ more, row ∈ relations) :
    Kept relations edges (rows ++ more)
      (more.foldl (GraphSearch.visitEdge maxNodes depth) state).1.edges := by
  induction more generalizing rows state with
  | nil =>
      rw [List.append_nil]
      exact h
  | cons edge more ih =>
      have hstep := h.keepEdge hids (hmore edge List.mem_cons_self)
      have hedges : (visitEdge maxNodes depth state edge).1.edges =
          Visiting.keepEdge state.1.edges edge := visitEdge_edges edge
      rw [← hedges] at hstep
      have hrows : rows ++ edge :: more = rows ++ [edge] ++ more := by
        rw [List.append_assoc]
        rfl
      rw [hrows]
      exact ih hstep fun row hrow => hmore row (List.mem_cons_of_mem _ hrow)

end MindscapeLocalCore.KnowledgeRetrieval.Visiting
