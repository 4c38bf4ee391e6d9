import MindscapeLocalCore.KnowledgeRetrieval.ScopeAgreement
import MindscapeLocalCore.KnowledgeRetrieval.Visiting
import MindscapeLocalCore.Library.Levels

/-!
The expansion of a neighborhood, one hop after the other: what every expansion keeps, and when it
comes to the whole neighborhood that its budgets hold.
-/

namespace MindscapeLocalCore.KnowledgeRetrieval.Expansion

open Library Library.ItemDict Library.Levels Tables Scopes QuerySeed HybridSearch GraphSearch
open Visiting
open ScopeAgreement (authorized_of_mem_rowsOfProjection)

variable (engine : Engine) (db : Database) (context : QueryContext) (filters : Filters)

/-! ### The authorised relations -/

def authorizedRelations : List GraphRelation :=
  (authorizedProjections db context filters).flatMap fun authorized =>
    db.relations.filter fun relation =>
      relation.projectionRevisionId = authorized.projectionRevisionId ∧
        relation.visibilityPartitionHash = authorized.visibilityPartitionHash

def ranked (nodes : Finset String) : List GraphRelation :=
  orderBy descending engine.textLe (fun relation => (relation.confidence, relation.relationId))
    ((authorizedRelations db context filters).filter fun relation =>
      Touches GraphRelation.sourceEntityId GraphRelation.targetEntityId nodes relation)

structure RowKeys : Prop where
  projections : (db.projections.map Projection.projectionRevisionId).Nodup
  relations : (db.relations.map GraphRelation.relationId).Nodup

variable {engine db context filters} {frontier : List String} {limit : ℕ} {nodes : Finset String}

theorem mem_ranked {relation : GraphRelation} :
    relation ∈ ranked engine db context filters nodes ↔
      relation ∈ authorizedRelations db context filters ∧
        Touches GraphRelation.sourceEntityId GraphRelation.targetEntityId nodes relation := by
  rw [ranked, orderBy, List.mem_mergeSort, List.mem_filter, decide_eq_true_eq]

theorem relationRows_eq :
    relationRows engine db context filters frontier limit =
      (ranked engine db context filters frontier.toFinset).take limit := by
  rw [relationRows, ranked, authorizedRelations, List.filter_flatMap]
  congr 2
  refine List.flatMap_congr fun authorized _ => ?_
  rw [List.filter_filter]
  refine List.filter_congr fun relation _ => ?_
  rw [← Bool.decide_and, decide_eq_decide, Touches, List.mem_toFinset, List.mem_toFinset]
  tauto

/-! ### Keys -/

theorem length_rowsOfProjection_le (projection : Projection) :
    (rowsOfProjection db context filters projection).length ≤ 1 := by
  refine Relational.length_flatMap_le_one
    (Relational.length_filter_le_one db.resource_keys fun resource h => h.1) fun resource _ => ?_
  refine Relational.length_flatMap_le_one
    (Relational.length_filter_le_one db.label_keys fun label h => h) fun label _ => ?_
  show (ite _ _ _ : List AuthorizedProjection).length ≤ 1
  split
  · exact Nat.le_refl 1
  · exact Nat.zero_le 1

theorem projectionRevisionId_of_mem {projection : Projection} {row : AuthorizedProjection}
    (h : row ∈ rowsOfProjection db context filters projection) :
    row.projectionRevisionId = projection.projectionRevisionId := by
  obtain ⟨resource, -, label, -, -, -, rfl⟩ := authorized_of_mem_rowsOfProjection h
  rfl

theorem nodup_of_length_le_one {α : Type} {l : List α} (h : l.length ≤ 1) : l.Nodup := by
  match l, h with
  | [], _ => exact List.nodup_nil
  | [a], _ => exact List.nodup_singleton a

theorem nodup_authorizedProjections (hkeys : RowKeys db) :
    ((authorizedProjections db context filters).map
      AuthorizedProjection.projectionRevisionId).Nodup := by
  rw [authorizedProjections, List.map_flatMap, List.nodup_flatMap]
  constructor
  · intro projection _
    refine nodup_of_length_le_one ?_
    rw [List.length_map]
    exact length_rowsOfProjection_le projection
  · refine (List.pairwise_map.mp hkeys.projections).imp ?_
    intro projection other hne id hid hid'
    obtain ⟨row, hrow, rfl⟩ := List.mem_map.mp hid
    obtain ⟨row', hrow', heq⟩ := List.mem_map.mp hid'
    rw [projectionRevisionId_of_mem hrow, projectionRevisionId_of_mem hrow'] at heq
    exact hne heq.symm

theorem nodup_authorizedRelations (hkeys : RowKeys db) :
    ((authorizedRelations db context filters).map GraphRelation.relationId).Nodup := by
  rw [authorizedRelations, List.map_flatMap, List.nodup_flatMap]
  constructor
  · intro authorized _
    exact hkeys.relations.sublist (List.filter_sublist.map _)
  · refine (List.pairwise_map.mp (nodup_authorizedProjections hkeys)).imp ?_
    intro authorized other hne id hid hid'
    obtain ⟨relation, hrelation, rfl⟩ := List.mem_map.mp hid
    obtain ⟨relation', hrelation', heq⟩ := List.mem_map.mp hid'
    obtain ⟨hmem, hprojection⟩ := List.mem_filter.mp hrelation
    obtain ⟨hmem', hprojection'⟩ := List.mem_filter.mp hrelation'
    obtain rfl := List.inj_on_of_nodup_map hkeys.relations hmem' hmem heq
    exact hne ((of_decide_eq_true hprojection).1.symm.trans (of_decide_eq_true hprojection').1)

/-! ### Hops -/

variable (engine db context filters) (maxNodes maxEdges : ℕ) (seeds : List String)

def seeded : Visited where
  depths := seeds.map fun seed => (seed, 0)
  edges := []

def expansion (hops : ℕ) : Visited :=
  expand engine db context filters maxNodes maxEdges hops 1 seeds (seeded seeds)

def Stopped (state : Visited × List String) : Prop :=
  state.2 = [] ∨ maxNodes ≤ state.1.depths.length ∨ maxEdges ≤ state.1.edges.length

instance (state : Visited × List String) : Decidable (Stopped maxNodes maxEdges state) :=
  inferInstanceAs (Decidable (_ ∨ _))

def rowsFrom (state : Visited × List String) : List GraphRelation :=
  relationRows engine db context filters state.2 (maxEdges - state.1.edges.length)

def hop (depth : ℕ) (state : Visited × List String) : Visited × List String :=
  if Stopped maxNodes maxEdges state then state
  else (rowsFrom engine db context filters maxEdges state).foldl (visitEdge maxNodes depth)
    (state.1, [])

def afterHops (depth : ℕ) (state : Visited × List String) : ℕ → Visited × List String
  | 0 => state
  | n + 1 => hop engine db context filters maxNodes maxEdges (depth + n) (afterHops depth state n)

variable {engine db context filters maxNodes maxEdges seeds} {depth d n : ℕ}
  {state : Visited × List String}

theorem hop_of_stopped (h : Stopped maxNodes maxEdges state) :
    hop engine db context filters maxNodes maxEdges depth state = state := if_pos h

theorem hop_of_not_stopped (h : ¬ Stopped maxNodes maxEdges state) :
    hop engine db context filters maxNodes maxEdges depth state =
      (rowsFrom engine db context filters maxEdges state).foldl (visitEdge maxNodes depth)
        (state.1, []) := if_neg h

theorem afterHops_succ :
    afterHops engine db context filters maxNodes maxEdges depth state (n + 1) =
      afterHops engine db context filters maxNodes maxEdges (depth + 1)
        (hop engine db context filters maxNodes maxEdges depth state) n := by
  induction n with
  | zero => rfl
  | succ n ih =>
      show hop engine db context filters maxNodes maxEdges (depth + (n + 1))
        (afterHops engine db context filters maxNodes maxEdges depth state (n + 1)) = _
      rw [ih, show depth + (n + 1) = depth + 1 + n by omega]
      rfl

theorem afterHops_of_stopped (h : Stopped maxNodes maxEdges state) :
    afterHops engine db context filters maxNodes maxEdges depth state n = state := by
  induction n with
  | zero => rfl
  | succ n ih =>
      rw [afterHops, ih]
      exact hop_of_stopped h

theorem expand_eq_afterHops :
    expand engine db context filters maxNodes maxEdges n depth state.2 state.1 =
      (afterHops engine db context filters maxNodes maxEdges depth state n).1 := by
  induction n generalizing depth state with
  | zero => rfl
  | succ n ih =>
      rw [expand]
      split
      · rename_i hstopped
        rw [afterHops_of_stopped hstopped]
      · rename_i hopen
        rw [afterHops_succ, hop_of_not_stopped hopen]
        exact ih

/-! ### What every hop keeps -/

def Joins (relation : GraphRelation) (a b : String) : Prop :=
  relation.sourceEntityId = a ∧ relation.targetEntityId = b ∨
    relation.sourceEntityId = b ∧ relation.targetEntityId = a

def Spent (maxNodes maxEdges : ℕ) (visited : Visited) : Prop :=
  maxNodes ≤ visited.depths.length ∨ maxEdges ≤ visited.edges.length

variable (db context filters maxNodes maxEdges seeds) in
structure Sound (d : ℕ) (state : Visited × List String) : Prop where
  keys : (state.1.depths.map Prod.fst).Nodup
  nodes : state.1.depths.length ≤ maxNodes
  edgeKeys : (state.1.edges.map Prod.fst).Nodup
  edgeCount : state.1.edges.length ≤ maxEdges
  known : ∀ item ∈ state.1.edges,
    item.2 ∈ authorizedRelations db context filters ∧ item.1 = item.2.relationId
  depth_le : ∀ a k, getItem a state.1.depths = some k → k ≤ d
  seed : ∀ a, getItem a state.1.depths = some 0 → a ∈ seeds
  parent : ∀ a k, getItem a state.1.depths = some (k + 1) →
    ∃ item ∈ state.1.edges, ∃ b, Joins item.2 a b ∧ getItem b state.1.depths = some k
  frontier : Spent maxNodes maxEdges state.1 ∨
    ∀ a, a ∈ state.2 ↔ getItem a state.1.depths = some d

theorem getItem_seeded {a : String} {k : ℕ} :
    getItem a (seeded seeds).depths = some k ↔ k = 0 ∧ a ∈ seeds := by
  induction seeds with
  | nil => simp [seeded, getItem]
  | cons seed seeds ih =>
      show getItem a ((seed, 0) :: (seeded seeds).depths) = some k ↔ _
      rw [getItem_cons, List.mem_cons]
      by_cases ha : a = seed
      · rw [if_pos ha, Option.some_inj]
        simp [ha, eq_comm]
      · rw [if_neg ha, ih]
        simp [ha]

theorem map_fst_seeded : (seeded seeds).depths.map Prod.fst = seeds := by
  rw [seeded, List.map_map]
  exact List.map_id seeds

theorem Sound.start (hseeds : seeds.Nodup) (hcount : seeds.length ≤ maxNodes) :
    Sound db context filters maxNodes maxEdges seeds 0 (seeded seeds, seeds) where
  keys := by
    rw [map_fst_seeded]
    exact hseeds
  nodes := by
    rw [seeded, List.length_map]
    exact hcount
  edgeKeys := List.nodup_nil
  edgeCount := Nat.zero_le _
  known item h := by cases h
  depth_le a k h := Nat.le_of_eq (getItem_seeded.mp h).1
  seed a h := (getItem_seeded.mp h).2
  parent a k h := by
    obtain ⟨hk, -⟩ := getItem_seeded.mp h
    cases hk
  frontier := .inr fun a => by simp [getItem_seeded]

theorem Sound.mem_frontier (h : Sound db context filters maxNodes maxEdges seeds d state)
    (hopen : ¬ Stopped maxNodes maxEdges state) (a : String) :
    a ∈ state.2 ↔ getItem a state.1.depths = some d := by
  rcases h.frontier with hspent | hfrontier
  · exact absurd (.inr hspent) hopen
  · exact hfrontier a

theorem mem_rowsFrom {row : GraphRelation}
    (h : row ∈ rowsFrom engine db context filters maxEdges state) :
    row ∈ authorizedRelations db context filters ∧
      Touches GraphRelation.sourceEntityId GraphRelation.targetEntityId state.2.toFinset row := by
  rw [rowsFrom, relationRows_eq] at h
  exact mem_ranked.mp (List.mem_of_mem_take h)

theorem length_rowsFrom_le :
    (rowsFrom engine db context filters maxEdges state).length ≤
      maxEdges - state.1.edges.length := by
  rw [rowsFrom, relationRows_eq]
  exact List.length_take_le _ _

section

variable (h : Sound db context filters maxNodes maxEdges seeds d state)
  (hopen : ¬ Stopped maxNodes maxEdges state)

include h hopen

theorem Sound.reached :
    Reached maxNodes depth state.1.depths
      ((rowsFrom engine db context filters maxEdges state).flatMap ends)
      (hop engine db context filters maxNodes maxEdges depth state) := by
  rw [hop_of_not_stopped hopen]
  exact (Reached.start state.1.edges h.keys h.nodes).foldl _

theorem Sound.kept (hkeys : RowKeys db) :
    Kept (authorizedRelations db context filters) state.1.edges
      (rowsFrom engine db context filters maxEdges state)
      (hop engine db context filters maxNodes maxEdges depth state).1.edges := by
  have hstart : Kept (authorizedRelations db context filters) state.1.edges []
      (state.1, ([] : List String)).1.edges := Kept.start h.edgeKeys h.known
  rw [hop_of_not_stopped hopen]
  exact hstart.foldl (nodup_authorizedRelations hkeys) fun row hrow => (mem_rowsFrom hrow).1

end

theorem mem_ends {relation : GraphRelation} {a : String} :
    a ∈ ends relation ↔ relation.sourceEntityId = a ∨ relation.targetEntityId = a := by
  simp [ends, eq_comm]

theorem Sound.exists_parent (h : Sound db context filters maxNodes maxEdges seeds d state)
    (hopen : ¬ Stopped maxNodes maxEdges state) {a : String}
    (hnew : getItem a state.1.depths = none)
    (hend : a ∈ (rowsFrom engine db context filters maxEdges state).flatMap ends) :
    ∃ row ∈ rowsFrom engine db context filters maxEdges state, ∃ b,
      Joins row a b ∧ getItem b state.1.depths = some d := by
  obtain ⟨row, hrow, ha⟩ := List.mem_flatMap.mp hend
  have hfar : ∀ b, b ∈ state.2.toFinset → getItem b state.1.depths = some d := fun b hb =>
    (h.mem_frontier hopen b).mp (List.mem_toFinset.mp hb)
  have hne : a ∉ state.2.toFinset := by
    intro hmem
    rw [hfar a hmem] at hnew
    cases hnew
  rcases mem_ends.mp ha with rfl | rfl
  · rcases (mem_rowsFrom hrow).2 with hsource | htarget
    · exact absurd hsource hne
    · exact ⟨row, hrow, _, .inl ⟨rfl, rfl⟩, hfar _ htarget⟩
  · rcases (mem_rowsFrom hrow).2 with hsource | htarget
    · exact ⟨row, hrow, _, .inr ⟨rfl, rfl⟩, hfar _ hsource⟩
    · exact absurd htarget hne

theorem Sound.hop (hkeys : RowKeys db) (h : Sound db context filters maxNodes maxEdges seeds d state) :
    Sound db context filters maxNodes maxEdges seeds (d + 1)
      (hop engine db context filters maxNodes maxEdges (d + 1) state) := by
  by_cases hstopped : Stopped maxNodes maxEdges state
  · rw [hop_of_stopped hstopped]
    refine { h with
      depth_le := fun a k hk => Nat.le_succ_of_le (h.depth_le a k hk)
      frontier := ?_ }
    rcases h.frontier with hspent | hfrontier
    · exact .inl hspent
    · rcases hstopped with hnil | hspent
      · refine .inr fun a => ⟨fun hmem => ?_, fun hdepth => ?_⟩
        · rw [hnil] at hmem
          cases hmem
        · exact absurd (h.depth_le a _ hdepth) (by omega)
      · exact .inl hspent
  · have hreached : Reached maxNodes (d + 1) state.1.depths
        ((rowsFrom engine db context filters maxEdges state).flatMap ends)
        (Expansion.hop engine db context filters maxNodes maxEdges (d + 1) state) :=
      h.reached hstopped
    have hkept : Kept (authorizedRelations db context filters) state.1.edges
        (rowsFrom engine db context filters maxEdges state)
        (Expansion.hop engine db context filters maxNodes maxEdges (d + 1) state).1.edges :=
      h.kept hstopped hkeys
    have hold : ∀ a k, getItem a state.1.depths = some k → getItem a
        (Expansion.hop engine db context filters maxNodes maxEdges (d + 1) state).1.depths =
          some k := fun a k hk => (hreached.getItem_iff a k).mpr (.inl hk)
    refine ⟨hreached.keys, hreached.nodes, hkept.keys, ?_, hkept.known, ?_, ?_, ?_, ?_⟩
    · have hcount := hkept.count
      have hrows : (rowsFrom engine db context filters maxEdges state).length ≤
          maxEdges - state.1.edges.length := length_rowsFrom_le
      have := h.edgeCount
      omega
    · intro a k hk
      rcases (hreached.getItem_iff a k).mp hk with hbefore | ⟨rfl, -⟩
      · exact Nat.le_succ_of_le (h.depth_le a k hbefore)
      · exact Nat.le_refl _
    · intro a hk
      rcases (hreached.getItem_iff a 0).mp hk with hbefore | ⟨hdepth, -⟩
      · exact h.seed a hbefore
      · cases hdepth
    · intro a k hk
      rcases (hreached.getItem_iff a (k + 1)).mp hk with hbefore | ⟨hdepth, hmem⟩
      · obtain ⟨item, hitem, b, hjoins, hb⟩ := h.parent a k hbefore
        exact ⟨item, (hkept.mem_iff item).mpr (.inl hitem), b, hjoins, hold b k hb⟩
      · obtain rfl : k = d := Nat.succ.inj hdepth
        obtain ⟨hnew, hend⟩ := hreached.added a hmem
        obtain ⟨row, hrow, b, hjoins, hb⟩ := h.exists_parent hstopped hnew hend
        exact ⟨_, (hkept.mem_iff _).mpr (.inr ⟨row, hrow, rfl⟩), b, hjoins, hold b k hb⟩
    · refine .inr fun a => ⟨fun hmem => (hreached.getItem_iff a _).mpr (.inr ⟨rfl, hmem⟩), ?_⟩
      intro hdepth
      rcases (hreached.getItem_iff a _).mp hdepth with hbefore | ⟨-, hmem⟩
      · exact absurd (h.depth_le a _ hbefore) (by omega)
      · exact hmem

theorem sound_afterHops (hkeys : RowKeys db) (hseeds : seeds.Nodup)
    (hcount : seeds.length ≤ maxNodes) (n : ℕ) :
    Sound db context filters maxNodes maxEdges seeds n
      (afterHops engine db context filters maxNodes maxEdges 1 (seeded seeds, seeds) n) := by
  induction n with
  | zero => exact Sound.start hseeds hcount
  | succ n ih =>
      rw [afterHops, Nat.add_comm 1 n]
      exact ih.hop hkeys

end MindscapeLocalCore.KnowledgeRetrieval.Expansion
