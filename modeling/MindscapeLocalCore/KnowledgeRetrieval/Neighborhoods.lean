import MindscapeLocalCore.KnowledgeRetrieval.Expansion

/-!
When an expansion visits the whole neighborhood of its seeds.
-/

namespace MindscapeLocalCore.KnowledgeRetrieval.Neighborhoods

open Library.ItemDict Library.Levels Tables QuerySeed
open HybridSearch (GraphMetrics orderBy)
open GraphSearch
open ScopeAgreement (noFilters sampleContext sampleDatabase)
open Visiting Expansion

variable (engine : Engine) (db : Database) (context : QueryContext) (filters : Filters)
  (maxNodes maxEdges : ℕ) (seeds : List String)

/-! ### The neighborhood of the seeds -/

abbrev nodesWithin (d : ℕ) : Finset String :=
  within GraphRelation.sourceEntityId GraphRelation.targetEntityId
    (authorizedRelations db context filters) seeds.toFinset d

abbrev nodesAt (d : ℕ) : Finset String :=
  level GraphRelation.sourceEntityId GraphRelation.targetEntityId
    (authorizedRelations db context filters) seeds.toFinset d

abbrev relationsBefore (d : ℕ) : List GraphRelation :=
  edgesBefore GraphRelation.sourceEntityId GraphRelation.targetEntityId
    (authorizedRelations db context filters) seeds.toFinset d

abbrev relationsFrom (d : ℕ) : List GraphRelation :=
  newEdges GraphRelation.sourceEntityId GraphRelation.targetEntityId
    (authorizedRelations db context filters) seeds.toFinset d

structure Fits (h : ℕ) : Prop where
  nodes : (nodesWithin db context filters seeds h).card ≤ maxNodes
  edges : (relationsBefore db context filters seeds h).length ≤ maxEdges

/-- What is visited is the neighborhood, each entity with its distance. -/
structure Exact (h : ℕ) (visited : Visited) : Prop where
  nodes : ∀ a k, getItem a visited.depths = some k ↔ k ≤ h ∧
    IsDistance GraphRelation.sourceEntityId GraphRelation.targetEntityId
      (authorizedRelations db context filters) seeds.toFinset k a
  edges : ∀ item, item ∈ visited.edges ↔
    ∃ relation ∈ relationsBefore db context filters seeds h, item = (relation.relationId, relation)

/-- No relation of the distance is hidden from its hop: if there are any, nodes are left, and each
is among the first at the entities of this distance that the edges left admit. -/
def Unhidden (d : ℕ) : Prop :=
  relationsFrom db context filters seeds d ≠ [] →
    (nodesWithin db context filters seeds d).card < maxNodes ∧
      ∀ relation ∈ relationsFrom db context filters seeds d,
        relation ∈ (ranked engine db context filters (nodesAt db context filters seeds d)).take
          (maxEdges - (relationsBefore db context filters seeds d).length)

variable {engine db context filters maxNodes maxEdges seeds} {d k h : ℕ} {visited : Visited}
  {state : Visited × List String}

theorem Fits.mono (hle : d ≤ h) (hfits : Fits db context filters maxNodes maxEdges seeds h) :
    Fits db context filters maxNodes maxEdges seeds d where
  nodes := (Finset.card_le_card (within_mono hle)).trans hfits.nodes
  edges := by
    refine le_trans (List.Sublist.length_le ?_) hfits.edges
    refine List.monotone_filter_right _ fun relation htouched => ?_
    exact decide_eq_true (touchedBefore_mono hle (of_decide_eq_true htouched))

/-! ### Counting -/

theorem Exact.getItem_iff (hexact : Exact db context filters seeds h visited) {a : String} :
    getItem a visited.depths = some k ↔ k ≤ h ∧ a ∈ nodesAt db context filters seeds k := by
  rw [hexact.nodes, mem_level_iff_isDistance]

theorem mem_keys_iff {κ α : Type} [DecidableEq κ] {a : κ} {items : List (κ × α)} :
    a ∈ items.map Prod.fst ↔ ∃ v, getItem a items = some v := by
  rw [← Option.isSome_iff_exists, ← Option.ne_none_iff_isSome, ne_eq, getItem_eq_none_iff, not_not]

theorem Exact.mem_keys_iff (hexact : Exact db context filters seeds h visited) {a : String} :
    a ∈ visited.depths.map Prod.fst ↔ a ∈ nodesWithin db context filters seeds h := by
  rw [Neighborhoods.mem_keys_iff, mem_within_iff_level]
  exact exists_congr fun k => hexact.getItem_iff

theorem Exact.length_depths (hexact : Exact db context filters seeds h visited)
    (hkeys : (visited.depths.map Prod.fst).Nodup) :
    visited.depths.length = (nodesWithin db context filters seeds h).card := by
  have hlength : (visited.depths.map Prod.fst).length = visited.depths.length :=
    List.length_map Prod.fst
  rw [← hlength, ← List.toFinset_card_of_nodup hkeys]
  congr 1
  ext a
  rw [List.mem_toFinset, hexact.mem_keys_iff]

theorem Exact.length_edges (hrows : RowKeys db)
    (hexact : Exact db context filters seeds h visited)
    (hkeys : (visited.edges.map Prod.fst).Nodup) :
    visited.edges.length = (relationsBefore db context filters seeds h).length := by
  have hnodup : (relationsBefore db context filters seeds h).Nodup :=
    (List.Nodup.of_map _ (nodup_authorizedRelations hrows)).filter _
  have hinjective : Function.Injective fun relation : GraphRelation =>
      (relation.relationId, relation) := fun _ _ heq => (Prod.mk.inj heq).2
  have hperm : visited.edges.Perm
      ((relationsBefore db context filters seeds h).map fun relation =>
        (relation.relationId, relation)) := by
    refine (List.perm_ext_iff_of_nodup (List.Nodup.of_map _ hkeys)
      (hnodup.map hinjective)).mpr fun item => ?_
    rw [hexact.edges, List.mem_map]
    exact exists_congr fun relation => and_congr_right fun _ => eq_comm
  rw [hperm.length_eq, List.length_map]

/-! ### A hop -/

theorem Exact.start : Exact db context filters seeds 0 (seeded seeds) where
  nodes a k := by
    rw [getItem_seeded, ← mem_level_iff_isDistance, Nat.le_zero]
    refine and_congr_right fun hk => ?_
    rw [hk, level, List.mem_toFinset]
  edges item := by
    simp [seeded, mem_edgesBefore, TouchedBefore]

theorem toFinset_frontier (hsound : Sound db context filters maxNodes maxEdges seeds d state)
    (hexact : Exact db context filters seeds d state.1)
    (hopen : ¬ Stopped maxNodes maxEdges state) :
    state.2.toFinset = nodesAt db context filters seeds d := by
  ext a
  rw [List.mem_toFinset, hsound.mem_frontier hopen, hexact.getItem_iff]
  exact and_iff_right (Nat.le_refl d)

theorem rowsFrom_eq (hrows : RowKeys db)
    (hsound : Sound db context filters maxNodes maxEdges seeds d state)
    (hexact : Exact db context filters seeds d state.1)
    (hopen : ¬ Stopped maxNodes maxEdges state) :
    rowsFrom engine db context filters maxEdges state =
      (ranked engine db context filters (nodesAt db context filters seeds d)).take
        (maxEdges - (relationsBefore db context filters seeds d).length) := by
  rw [rowsFrom, relationRows_eq, toFinset_frontier hsound hexact hopen,
    hexact.length_edges hrows hsound.edgeKeys]

theorem Exact.hop (hrows : RowKeys db)
    (hsound : Sound db context filters maxNodes maxEdges seeds d state)
    (hexact : Exact db context filters seeds d state.1)
    (hopen : ¬ Stopped maxNodes maxEdges state)
    (hfits : Fits db context filters maxNodes maxEdges seeds (d + 1))
    (hread : ∀ relation ∈ relationsFrom db context filters seeds d,
      relation ∈ rowsFrom engine db context filters maxEdges state) :
    Exact db context filters seeds (d + 1)
      (hop engine db context filters maxNodes maxEdges (d + 1) state).1 := by
  have hreached : Reached maxNodes (d + 1) state.1.depths
      ((rowsFrom engine db context filters maxEdges state).flatMap ends)
      (Expansion.hop engine db context filters maxNodes maxEdges (d + 1) state) :=
    hsound.reached hopen
  have hkept : Kept (authorizedRelations db context filters) state.1.edges
      (rowsFrom engine db context filters maxEdges state)
      (Expansion.hop engine db context filters maxNodes maxEdges (d + 1) state).1.edges :=
    hsound.kept hopen hrows
  have hrow : ∀ row ∈ rowsFrom engine db context filters maxEdges state,
      row ∈ relationsBefore db context filters seeds (d + 1) := by
    intro row hmem
    obtain ⟨hrelation, htouches⟩ := mem_rowsFrom hmem
    rw [toFinset_frontier hsound hexact hopen] at htouches
    exact mem_edgesBefore.mpr ⟨hrelation, touchedBefore_of_level htouches⟩
  -- what a hop adds is as far as the hop
  have hadded : ∀ a ∈ (Expansion.hop engine db context filters maxNodes maxEdges (d + 1) state).2,
      a ∈ nodesAt db context filters seeds (d + 1) := by
    intro a hmem
    obtain ⟨hnew, hend⟩ := hreached.added a hmem
    obtain ⟨row, hmemRow, ha⟩ := List.mem_flatMap.mp hend
    obtain ⟨hrelation, htouched⟩ := mem_edgesBefore.mp (hrow row hmemRow)
    obtain ⟨hsource, htarget⟩ := ends_mem_within hrelation htouched
    refine Finset.mem_sdiff.mpr ⟨?_, fun hnear => ?_⟩
    · rcases mem_ends.mp ha with rfl | rfl
      · exact hsource
      · exact htarget
    · exact getItem_eq_none_iff.mp hnew (hexact.mem_keys_iff.mpr hnear)
  have hwithin : (Expansion.hop engine db context filters maxNodes maxEdges
      (d + 1) state).1.depths.map Prod.fst ⊆
        (nodesWithin db context filters seeds (d + 1)).toList := by
    intro a ha
    rw [Finset.mem_toList]
    obtain ⟨k, hk⟩ := Neighborhoods.mem_keys_iff.mp ha
    rcases (hreached.getItem_iff a k).mp hk with hold | ⟨-, hnew⟩
    · exact within_mono (Nat.le_succ d)
        (hexact.mem_keys_iff.mp (Neighborhoods.mem_keys_iff.mpr ⟨k, hold⟩))
    · exact level_subset_within (hadded a hnew)
  have hcomplete : ∀ a ∈ nodesAt db context filters seeds (d + 1),
      a ∈ (Expansion.hop engine db context filters maxNodes maxEdges (d + 1) state).2 := by
    intro a ha
    obtain ⟨relation, hnew, hend⟩ := exists_newEdge ha
    have hmem : a ∈ (rowsFrom engine db context filters maxEdges state).flatMap ends :=
      List.mem_flatMap.mpr ⟨relation, hread relation hnew, mem_ends.mpr hend⟩
    have hkey : a ∈ (Expansion.hop engine db context filters maxNodes maxEdges
        (d + 1) state).1.depths.map Prod.fst := by
      rcases hreached.reached a hmem with hreach | hfull
      · exact Neighborhoods.mem_keys_iff.mpr hreach
      · -- a full budget holds all that the neighborhood holds
        have hlength : (nodesWithin db context filters seeds (d + 1)).toList.length ≤
            ((Expansion.hop engine db context filters maxNodes maxEdges
              (d + 1) state).1.depths.map Prod.fst).length := by
          rw [Finset.length_toList, List.length_map]
          exact hfits.nodes.trans hfull
        refine ((List.subperm_of_subset hreached.keys hwithin).perm_of_length_le
          hlength).mem_iff.mpr ?_
        exact Finset.mem_toList.mpr (level_subset_within ha)
    obtain ⟨k, hk⟩ := Neighborhoods.mem_keys_iff.mp hkey
    rcases (hreached.getItem_iff a k).mp hk with hold | ⟨-, hmem⟩
    · have hnear := hexact.mem_keys_iff.mp (Neighborhoods.mem_keys_iff.mpr ⟨k, hold⟩)
      exact absurd hnear (not_mem_within_of_level ha (Nat.lt_succ_self d))
    · exact hmem
  refine ⟨fun a k => ?_, fun item => ?_⟩
  · rw [← mem_level_iff_isDistance, hreached.getItem_iff, hexact.getItem_iff]
    constructor
    · rintro (⟨hk, hlevel⟩ | ⟨rfl, hmem⟩)
      · exact ⟨Nat.le_succ_of_le hk, hlevel⟩
      · exact ⟨Nat.le_refl _, hadded a hmem⟩
    · rintro ⟨hk, hlevel⟩
      rcases Nat.le_or_eq_of_le_succ hk with hle | rfl
      · exact .inl ⟨hle, hlevel⟩
      · exact .inr ⟨rfl, hcomplete a hlevel⟩
  · rw [hkept.mem_iff, hexact.edges]
    constructor
    · rintro (⟨relation, hmem, rfl⟩ | ⟨row, hmem, rfl⟩)
      · exact ⟨relation, mem_edgesBefore_succ.mpr (.inl hmem), rfl⟩
      · exact ⟨row, hrow row hmem, rfl⟩
    · rintro ⟨relation, hmem, rfl⟩
      rcases mem_edgesBefore_succ.mp hmem with hold | hnew
      · exact .inl ⟨relation, hold, rfl⟩
      · exact .inr ⟨relation, hread relation hnew, rfl⟩

theorem Exact.succ_of_nil (hexact : Exact db context filters seeds d visited)
    (hnil : relationsFrom db context filters seeds d = []) :
    Exact db context filters seeds (d + 1) visited where
  nodes a k := by
    rw [hexact.getItem_iff, ← mem_level_iff_isDistance]
    refine ⟨fun ⟨hk, hlevel⟩ => ⟨Nat.le_succ_of_le hk, hlevel⟩, ?_⟩
    rintro ⟨hk, hlevel⟩
    rcases Nat.le_or_eq_of_le_succ hk with hle | rfl
    · exact ⟨hle, hlevel⟩
    · rw [level_succ_of_nil hnil] at hlevel
      exact absurd hlevel (Finset.notMem_empty a)
  edges item := by
    rw [hexact.edges, relationsBefore, relationsBefore, edgesBefore_succ_of_nil hnil]

/-! ### Hidden relations -/

theorem length_relationsBefore_lt (hrows : RowKeys db)
    (hnew : relationsFrom db context filters seeds d ≠ []) :
    (relationsBefore db context filters seeds d).length <
      (relationsBefore db context filters seeds (d + 1)).length := by
  obtain ⟨relation, hmem⟩ := List.exists_mem_of_ne_nil _ hnew
  obtain ⟨hrelation, htouched, hfar⟩ := mem_newEdges.mp hmem
  have hnodup : (relationsBefore db context filters seeds d).Nodup :=
    (List.Nodup.of_map _ (nodup_authorizedRelations hrows)).filter _
  have hfresh : relation ∉ relationsBefore db context filters seeds d :=
    fun hbefore => hfar (mem_edgesBefore.mp hbefore).2
  have hsubset : relation :: relationsBefore db context filters seeds d ⊆
      relationsBefore db context filters seeds (d + 1) := by
    refine List.cons_subset.mpr ⟨mem_edgesBefore_succ.mpr (.inr hmem), fun other hother => ?_⟩
    exact mem_edgesBefore_succ.mpr (.inl hother)
  exact (List.subperm_of_subset (List.nodup_cons.mpr ⟨hfresh, hnodup⟩) hsubset).length_le

theorem nodesAt_nonempty (hnew : relationsFrom db context filters seeds d ≠ []) :
    (nodesAt db context filters seeds d).Nonempty := by
  obtain ⟨relation, hmem⟩ := List.exists_mem_of_ne_nil _ hnew
  obtain ⟨-, htouched, hfar⟩ := mem_newEdges.mp hmem
  rcases touches_level_of_new htouched hfar with hsource | htarget
  · exact ⟨_, hsource⟩
  · exact ⟨_, htarget⟩

theorem not_stopped (hrows : RowKeys db)
    (hsound : Sound db context filters maxNodes maxEdges seeds d state)
    (hexact : Exact db context filters seeds d state.1)
    (hfits : Fits db context filters maxNodes maxEdges seeds (d + 1))
    (hnew : relationsFrom db context filters seeds d ≠ [])
    (hroom : (nodesWithin db context filters seeds d).card < maxNodes) :
    ¬ Stopped maxNodes maxEdges state := by
  have hnodes := hexact.length_depths hsound.keys
  have hedges := hexact.length_edges hrows hsound.edgeKeys
  have hfewer := length_relationsBefore_lt hrows hnew
  have hlimit := hfits.edges
  have hleft : ¬ Spent maxNodes maxEdges state.1 := by
    rintro (hfull | hfull)
    · omega
    · omega
  rintro (hnil | hspent)
  · obtain ⟨a, ha⟩ := nodesAt_nonempty hnew
    have hmem : a ∈ state.2 := by
      rcases hsound.frontier with hspent | hfrontier
      · exact absurd hspent hleft
      · exact (hfrontier a).mpr (hexact.getItem_iff.mpr ⟨Nat.le_refl d, ha⟩)
    rw [hnil] at hmem
    cases hmem
  · exact hleft hspent

theorem Exact.hop_of_unhidden (hrows : RowKeys db)
    (hsound : Sound db context filters maxNodes maxEdges seeds d state)
    (hexact : Exact db context filters seeds d state.1)
    (hfits : Fits db context filters maxNodes maxEdges seeds (d + 1))
    (hunhidden : Unhidden engine db context filters maxNodes maxEdges seeds d) :
    Exact db context filters seeds (d + 1)
      (Expansion.hop engine db context filters maxNodes maxEdges (d + 1) state).1 := by
  by_cases hnew : relationsFrom db context filters seeds d = []
  · by_cases hstopped : Stopped maxNodes maxEdges state
    · rw [hop_of_stopped hstopped]
      exact hexact.succ_of_nil hnew
    · refine hexact.hop hrows hsound hstopped hfits fun relation hmem => ?_
      rw [hnew] at hmem
      cases hmem
  · obtain ⟨hroom, hfirst⟩ := hunhidden hnew
    have hopen := not_stopped hrows hsound hexact hfits hnew hroom
    refine hexact.hop hrows hsound hopen hfits fun relation hmem => ?_
    rw [rowsFrom_eq hrows hsound hexact hopen]
    exact hfirst relation hmem

theorem unhidden_of_exact (hrows : RowKeys db)
    (hsound : Sound db context filters maxNodes maxEdges seeds d state)
    (hexact : Exact db context filters seeds d state.1)
    (hnext : Exact db context filters seeds (d + 1)
      (Expansion.hop engine db context filters maxNodes maxEdges (d + 1) state).1) :
    Unhidden engine db context filters maxNodes maxEdges seeds d := by
  intro hnew
  have hread : ∀ relation ∈ relationsFrom db context filters seeds d,
      (relation.relationId, relation) ∉ state.1.edges ∧ (relation.relationId, relation) ∈
        (Expansion.hop engine db context filters maxNodes maxEdges (d + 1) state).1.edges := by
    intro relation hmem
    refine ⟨fun hold => ?_, (hnext.edges _).mpr
      ⟨relation, mem_edgesBefore_succ.mpr (.inr hmem), rfl⟩⟩
    obtain ⟨other, hbefore, heq⟩ := (hexact.edges _).mp hold
    obtain rfl : relation = other := (Prod.mk.inj heq).2
    exact (mem_newEdges.mp hmem).2.2 (mem_edgesBefore.mp hbefore).2
  have hopen : ¬ Stopped maxNodes maxEdges state := by
    intro hstopped
    obtain ⟨relation, hmem⟩ := List.exists_mem_of_ne_nil _ hnew
    obtain ⟨hfresh, hkept⟩ := hread relation hmem
    rw [hop_of_stopped hstopped] at hkept
    exact hfresh hkept
  constructor
  · rw [← hexact.length_depths hsound.keys]
    exact Nat.lt_of_not_le fun hfull => hopen (.inr (.inl hfull))
  · intro relation hmem
    obtain ⟨hfresh, hkept⟩ := hread relation hmem
    rw [← rowsFrom_eq hrows hsound hexact hopen]
    rcases ((hsound.kept hopen hrows).mem_iff _).mp hkept with hold | ⟨row, hrow, heq⟩
    · exact absurd hold hfresh
    · obtain rfl : relation = row := (Prod.mk.inj heq).2
      exact hrow

theorem unhidden_of_room
    (hnodes : (nodesWithin db context filters seeds d).card < maxNodes)
    (hedges : (relationsBefore db context filters seeds d).length +
      ((authorizedRelations db context filters).filter fun relation =>
        Touches GraphRelation.sourceEntityId GraphRelation.targetEntityId
          (nodesAt db context filters seeds d) relation).length ≤ maxEdges) :
    Unhidden engine db context filters maxNodes maxEdges seeds d := by
  refine fun _ => ⟨hnodes, fun relation hnew => ?_⟩
  have hlength : (ranked engine db context filters (nodesAt db context filters seeds d)).length ≤
      maxEdges - (relationsBefore db context filters seeds d).length := by
    rw [ranked, orderBy, List.length_mergeSort]
    omega
  rw [List.take_of_length_le hlength]
  obtain ⟨hrelation, htouched, hfar⟩ := mem_newEdges.mp hnew
  exact mem_ranked.mpr ⟨hrelation, touches_level_of_new htouched hfar⟩

/-! ### The expansion -/

theorem expansion_eq (n : ℕ) :
    expansion engine db context filters maxNodes maxEdges seeds n =
      (afterHops engine db context filters maxNodes maxEdges 1 (seeded seeds, seeds) n).1 := by
  show expand engine db context filters maxNodes maxEdges n 1 (seeded seeds, seeds).2
    (seeded seeds, seeds).1 = _
  exact expand_eq_afterHops

theorem expansion_succ (n : ℕ) :
    expansion engine db context filters maxNodes maxEdges seeds (n + 1) =
      (Expansion.hop engine db context filters maxNodes maxEdges (n + 1)
        (afterHops engine db context filters maxNodes maxEdges 1 (seeded seeds, seeds) n)).1 := by
  rw [expansion_eq, afterHops, Nat.add_comm 1 n]

theorem exact_expansion (hrows : RowKeys db) (hseeds : seeds.Nodup)
    (hcount : seeds.length ≤ maxNodes)
    (hunhidden : ∀ d < h, Fits db context filters maxNodes maxEdges seeds (d + 1) →
      Unhidden engine db context filters maxNodes maxEdges seeds d)
    (hfits : Fits db context filters maxNodes maxEdges seeds h) :
    Exact db context filters seeds h
      (expansion engine db context filters maxNodes maxEdges seeds h) := by
  induction h with
  | zero => exact Exact.start
  | succ h ih =>
      have hbefore := ih (fun d hd => hunhidden d (Nat.lt_succ_of_lt hd))
        (hfits.mono (Nat.le_succ h))
      rw [expansion_eq] at hbefore
      rw [expansion_succ]
      exact hbefore.hop_of_unhidden hrows (sound_afterHops hrows hseeds hcount h) hfits
        (hunhidden h (Nat.lt_succ_self h) hfits)

/-- Budgets hold, and every entity at a depth is joined to one a hop nearer; neighborhoods that
hold the budgets are visited as they are, for every number of hops, exactly if none of their
distances has a hidden relation. -/
theorem expansion_complete_iff (hrows : RowKeys db) (hseeds : seeds.Nodup)
    (hcount : seeds.length ≤ maxNodes) (maxHops : ℕ) :
    (∀ hops,
      let visited := expansion engine db context filters maxNodes maxEdges seeds hops
      visited.depths.length ≤ maxNodes ∧ visited.edges.length ≤ maxEdges ∧
        ∀ a depth, getItem a visited.depths = some depth → a ∉ seeds →
          ∃ before, depth = before + 1 ∧ ∃ item ∈ visited.edges, ∃ b,
            Joins item.2 a b ∧ getItem b visited.depths = some before) ∧
    ((∀ hops ≤ maxHops, Fits db context filters maxNodes maxEdges seeds hops →
        Exact db context filters seeds hops
          (expansion engine db context filters maxNodes maxEdges seeds hops)) ↔
      ∀ d < maxHops, Fits db context filters maxNodes maxEdges seeds (d + 1) →
        Unhidden engine db context filters maxNodes maxEdges seeds d) := by
  refine ⟨fun hops => ?_, fun hexact d hd hfits => ?_, fun hunhidden hops hle hfits => ?_⟩
  · have hsound : Sound db context filters maxNodes maxEdges seeds hops
        (afterHops engine db context filters maxNodes maxEdges 1 (seeded seeds, seeds) hops) :=
      sound_afterHops hrows hseeds hcount hops
    show (expansion engine db context filters maxNodes maxEdges seeds hops).depths.length ≤ _ ∧ _
    rw [expansion_eq]
    refine ⟨hsound.nodes, hsound.edgeCount, fun a depth hdepth hseed => ?_⟩
    cases depth with
    | zero => exact absurd (hsound.seed a hdepth) hseed
    | succ before => exact ⟨before, rfl, hsound.parent a before hdepth⟩
  · have hbefore := hexact d hd.le (hfits.mono (Nat.le_succ d))
    have hnext := hexact (d + 1) hd hfits
    rw [expansion_eq] at hbefore
    rw [expansion_succ] at hnext
    exact unhidden_of_exact hrows (sound_afterHops hrows hseeds hcount d) hbefore hnext
  · exact exact_expansion hrows hseeds hcount (fun d hd => hunhidden d (hd.trans_le hle)) hfits

/-! ### Small graphs -/

def wordEngine : Engine where
  TsQuery := List String
  TsVector := List String
  jsonbText _ := ""
  pythonText _ := ""
  textLe a b := a ≤ b
  isWord c := c.isAlphanum
  websearchToTsquery text := text.splitOn " "
  toTsquery text := text.splitOn " "
  either a b := a ++ b
  toTsvector text := text.splitOn " "
  setweight vector _ := vector
  append a b := a ++ b
  contains vector query := query.any vector.contains
  tsRankCd vector query := Float.ofNat (query.filter vector.contains).length
  ilike a b := "%" ++ a ++ "%" == b
  cosineDistance _ _ := 1.0
  generateEmbedding _ := none

def related (id source target : String) (confidence : Float) : GraphRelation where
  relationId := id
  projectionRevisionId := "kpr_1"
  sourceEntityId := source
  targetEntityId := target
  confidence := confidence
  visibilityPartitionHash := "v1"

def pairDatabase : Database :=
  { sampleDatabase with relations := [related "r1" "a" "b" 0.9] }

def pathDatabase : Database :=
  { sampleDatabase with relations := [related "r1" "a" "b" 0.9, related "r2" "b" "c" 0.5] }

theorem pathDatabase_keys : RowKeys pathDatabase where
  projections := by decide
  relations := by decide

theorem expansion_path :
    let visited := expansion wordEngine pathDatabase sampleContext noFilters 10 5 ["a"] 2
    visited.depths.length ≤ 10 ∧ Exact pathDatabase sampleContext noFilters ["a"] 2 visited := by
  obtain ⟨hbudget, hcomplete⟩ := @expansion_complete_iff wordEngine pathDatabase sampleContext
    noFilters 10 5 ["a"] pathDatabase_keys (List.nodup_singleton "a") (by decide) 2
  refine ⟨(hbudget 2).1, hcomplete.mpr (fun d hd _ => ?_) 2 (Nat.le_refl 2) ⟨by decide, by decide⟩⟩
  interval_cases d
  · exact unhidden_of_room (by decide) (by decide)
  · exact unhidden_of_room (by decide) (by decide)

/-- An end of the row from which the whole row is visited has the other relation read as the one
that the budget leaves in the middle. -/
theorem mem_take_of_exact {seed : String} {relation : GraphRelation}
    (hfits : Fits pathDatabase sampleContext noFilters 10 2 [seed] 2)
    (hfirst : Unhidden wordEngine pathDatabase sampleContext noFilters 10 2 [seed] 0)
    (hbefore : (relationsBefore pathDatabase sampleContext noFilters [seed] 1).length = 1)
    (hmiddle : nodesAt pathDatabase sampleContext noFilters [seed] 1 = {"b"})
    (hnew : relation ∈ relationsFrom pathDatabase sampleContext noFilters [seed] 1)
    (hexact : Exact pathDatabase sampleContext noFilters [seed] 2
      (expansion wordEngine pathDatabase sampleContext noFilters 10 2 [seed] 2)) :
    relation ∈ (ranked wordEngine pathDatabase sampleContext noFilters {"b"}).take 1 := by
  have hseeds : [seed].Nodup := List.nodup_singleton seed
  have hcount : [seed].length ≤ 10 := Nat.succ_le_succ (Nat.zero_le 9)
  have hone : Exact pathDatabase sampleContext noFilters [seed] 1
      (expansion wordEngine pathDatabase sampleContext noFilters 10 2 [seed] 1) := by
    refine exact_expansion pathDatabase_keys hseeds hcount (fun d hd _ => ?_)
      (hfits.mono (Nat.le_succ 1))
    obtain rfl : d = 0 := Nat.lt_one_iff.mp hd
    exact hfirst
  rw [expansion_eq] at hone
  rw [expansion_succ] at hexact
  have hunhidden : Unhidden wordEngine pathDatabase sampleContext noFilters 10 2 [seed] 1 :=
    unhidden_of_exact pathDatabase_keys (sound_afterHops pathDatabase_keys hseeds hcount 1) hone
      hexact
  have hread := (hunhidden (List.ne_nil_of_mem hnew)).2 relation hnew
  rw [hmiddle, hbefore] at hread
  exact hread

/-- Where the seeds use up the nodes, a relation between them is not visited; and where a relation
that is read again uses up the edges, the next one is not: from one end of the row or the other. -/
theorem expansion_hides :
    ¬ (Fits pairDatabase sampleContext noFilters 2 5 ["a", "b"] 1 →
        Exact pairDatabase sampleContext noFilters ["a", "b"] 1
          (expansion wordEngine pairDatabase sampleContext noFilters 2 5 ["a", "b"] 1)) ∧
    ¬ ((Fits pathDatabase sampleContext noFilters 10 2 ["a"] 2 →
        Exact pathDatabase sampleContext noFilters ["a"] 2
          (expansion wordEngine pathDatabase sampleContext noFilters 10 2 ["a"] 2)) ∧
      (Fits pathDatabase sampleContext noFilters 10 2 ["c"] 2 →
        Exact pathDatabase sampleContext noFilters ["c"] 2
          (expansion wordEngine pathDatabase sampleContext noFilters 10 2 ["c"] 2))) := by
  constructor
  · intro hcomplete
    have hfits : Fits pairDatabase sampleContext noFilters 2 5 ["a", "b"] 1 :=
      ⟨by decide, by decide⟩
    have hedge : related "r1" "a" "b" 0.9 ∈
        relationsBefore pairDatabase sampleContext noFilters ["a", "b"] 1 :=
      mem_edgesBefore.mpr ⟨List.mem_singleton_self _, by decide⟩
    have hvisited := ((hcomplete hfits).edges _).mpr ⟨_, hedge, rfl⟩
    cases hvisited
  · rintro ⟨hleft, hright⟩
    have hfirst : related "r1" "a" "b" 0.9 ∈
        authorizedRelations pathDatabase sampleContext noFilters := List.mem_cons_self
    have hsecond : related "r2" "b" "c" 0.5 ∈
        authorizedRelations pathDatabase sampleContext noFilters :=
      List.mem_cons_of_mem _ (List.mem_singleton_self _)
    have hfits : Fits pathDatabase sampleContext noFilters 10 2 ["a"] 2 := ⟨by decide, by decide⟩
    have hfits' : Fits pathDatabase sampleContext noFilters 10 2 ["c"] 2 := ⟨by decide, by decide⟩
    have hone : related "r2" "b" "c" 0.5 ∈
        (ranked wordEngine pathDatabase sampleContext noFilters {"b"}).take 1 :=
      mem_take_of_exact hfits (unhidden_of_room (by decide) (by decide)) (by decide) (by decide)
        (mem_newEdges.mpr ⟨hsecond, by decide, by decide⟩) (hleft hfits)
    have hother : related "r1" "a" "b" 0.9 ∈
        (ranked wordEngine pathDatabase sampleContext noFilters {"b"}).take 1 :=
      mem_take_of_exact hfits' (unhidden_of_room (by decide) (by decide)) (by decide) (by decide)
        (mem_newEdges.mpr ⟨hfirst, by decide, by decide⟩) (hright hfits')
    -- there is room for one of the two
    have hnodup : [related "r1" "a" "b" 0.9, related "r2" "b" "c" 0.5].Nodup :=
      List.Nodup.of_map GraphRelation.relationId (by decide)
    have hboth : [related "r1" "a" "b" 0.9, related "r2" "b" "c" 0.5] ⊆
        (ranked wordEngine pathDatabase sampleContext noFilters {"b"}).take 1 :=
      List.cons_subset.mpr ⟨hother, List.cons_subset.mpr ⟨hone, List.nil_subset _⟩⟩
    have hlength : 2 ≤ ((ranked wordEngine pathDatabase sampleContext noFilters
        {"b"}).take 1).length := (List.subperm_of_subset hnodup hboth).length_le
    have hlimit := List.length_take_le 1
      (ranked wordEngine pathDatabase sampleContext noFilters {"b"})
    omega

end MindscapeLocalCore.KnowledgeRetrieval.Neighborhoods
