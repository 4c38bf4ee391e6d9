import Mathlib.Data.Finset.Sort
import Mathlib.Logic.Relation
import MindscapeLocalCore.Library.ItemDict

/-!
Search of a graph with a stack, and the components that searches from one seed after the other
find. A graph is a dictionary of the nodes that each of its nodes leads to.
-/

namespace MindscapeLocalCore.Library.StackSearch

open ItemDict

variable {α : Type} [LinearOrder α]

/-- The nodes that each node leads to. -/
abbrev Graph (α : Type) := List (α × Finset α)

def Leads (graph : Graph α) (a b : α) : Prop := ∃ targets ∈ getItem a graph, b ∈ targets

/-- Every edge ends at a node. -/
def Closed (graph : Graph α) : Prop :=
  ∀ a b, Leads graph a b → b ∈ graph.map Prod.fst

/-- Nodes are taken from the stack, whose top comes first, until it is empty; what a new node leads
to is pushed, the least on top. The nodes visited before and now are returned with those added to
the members; a node that is no node of the graph raises. -/
def search (graph : Graph α) (stack : List α) (visited members : Finset α) :
    Option (Finset α × Finset α) :=
  match stack with
  | [] => some (visited, members)
  | current :: stack =>
      if current ∈ visited then search graph stack visited members
      else
        match h : getItem current graph with
        | none => none
        | some targets =>
            search graph ((targets \ insert current visited).sort ++ stack)
              (insert current visited) (insert current members)
termination_by (((graph.map Prod.fst).toFinset \ visited).card, stack.length)
decreasing_by
  · exact Prod.Lex.right _ (Nat.lt_succ_self _)
  · refine Prod.Lex.left _ _ (Finset.card_lt_card ?_)
    rename_i hnew
    have hkey : current ∈ (graph.map Prod.fst).toFinset := by
      rw [List.mem_toFinset]
      by_contra habsent
      rw [getItem_eq_none_iff.mpr habsent] at h
      cases h
    refine Finset.ssubset_iff_of_subset (Finset.sdiff_subset_sdiff (Finset.Subset.refl _)
      (Finset.subset_insert _ _)) |>.mpr ⟨current, ?_, ?_⟩
    · exact Finset.mem_sdiff.mpr ⟨hkey, hnew⟩
    · intro hmem
      exact (Finset.mem_sdiff.mp hmem).2 (Finset.mem_insert_self _ _)

variable {graph : Graph α} {stack : List α} {visited members : Finset α}

/-- What a search adds: nodes that the stack leads to, all of the stack, and what they lead to. -/
structure Adds (graph : Graph α) (stack : List α) (visited found : Finset α) : Prop where
  fresh : Disjoint found visited
  reached : ∀ a ∈ found, ∃ seed ∈ stack, Relation.ReflTransGen (Leads graph) seed a
  complete : ∀ a ∈ stack, a ∈ visited ∪ found
  closed : ∀ a ∈ found, ∀ b, Leads graph a b → b ∈ visited ∪ found

theorem search_eq_some (hgraph : Closed graph) (hstack : ∀ a ∈ stack, a ∈ graph.map Prod.fst) :
    ∃ found, search graph stack visited members = some (visited ∪ found, members ∪ found) ∧
      Adds graph stack visited found := by
  fun_induction search graph stack visited members with
  | case1 visited members =>
      refine ⟨∅, by rw [Finset.union_empty, Finset.union_empty], ?_⟩
      constructor
      · exact Finset.disjoint_empty_left _
      · intro a ha
        cases ha
      · intro a ha
        cases ha
      · intro a ha
        cases ha
  | case2 visited members current stack hold ih =>
      obtain ⟨found, hsearch, hadds⟩ := ih fun a ha => hstack a (List.mem_cons_of_mem _ ha)
      refine ⟨found, hsearch, hadds.fresh, ?_, ?_, hadds.closed⟩
      · intro a ha
        obtain ⟨seed, hseed, hpath⟩ := hadds.reached a ha
        exact ⟨seed, List.mem_cons_of_mem _ hseed, hpath⟩
      · intro a ha
        rcases List.mem_cons.mp ha with rfl | ha
        · exact Finset.mem_union_left _ hold
        · exact hadds.complete a ha
  | case3 visited members current stack hnew hnone =>
      exact absurd (hstack current List.mem_cons_self) (getItem_eq_none_iff.mp hnone)
  | case4 visited members current stack hnew targets htargets ih =>
      have hleads : ∀ b ∈ targets, Leads graph current b := fun b hb => ⟨targets, htargets, hb⟩
      obtain ⟨found, hsearch, hadds⟩ := ih fun a ha => by
        rcases List.mem_append.mp ha with ha | ha
        · have htarget := (Finset.mem_sdiff.mp (Finset.mem_sort _ |>.mp ha)).1
          exact hgraph current a (hleads a htarget)
        · exact hstack a (List.mem_cons_of_mem _ ha)
      have hunion : ∀ base : Finset α, insert current base ∪ found = base ∪ insert current found := by
        intro base
        rw [Finset.insert_union, Finset.union_insert]
      have hfresh := Finset.disjoint_insert_right.mp hadds.fresh
      refine ⟨insert current found, by rw [hsearch, hunion, hunion], ?_⟩
      constructor
      · exact Finset.disjoint_insert_left.mpr ⟨hnew, hfresh.2⟩
      · intro a ha
        rcases Finset.mem_insert.mp ha with rfl | ha
        · exact ⟨a, List.mem_cons_self, .refl⟩
        · obtain ⟨seed, hseed, hpath⟩ := hadds.reached a ha
          rcases List.mem_append.mp hseed with hseed | hseed
          · have htarget := (Finset.mem_sdiff.mp (Finset.mem_sort _ |>.mp hseed)).1
            exact ⟨current, List.mem_cons_self, hpath.head (hleads seed htarget)⟩
          · exact ⟨seed, List.mem_cons_of_mem _ hseed, hpath⟩
      · intro a ha
        rw [← hunion]
        rcases List.mem_cons.mp ha with rfl | ha
        · exact Finset.mem_union_left _ (Finset.mem_insert_self _ _)
        · exact hadds.complete a (List.mem_append_right _ ha)
      · intro a ha b hab
        rw [← hunion]
        rcases Finset.mem_insert.mp ha with rfl | ha
        · obtain ⟨found', hfound', hb⟩ := hab
          obtain rfl : targets = found' := Option.some.inj (htargets.symm.trans hfound')
          by_cases hvisited : b ∈ insert a visited
          · exact Finset.mem_union_left _ hvisited
          · refine hadds.complete b (List.mem_append_left _ ?_)
            exact (Finset.mem_sort _).mpr (Finset.mem_sdiff.mpr ⟨hb, hvisited⟩)
        · exact hadds.closed a ha b hab

theorem search_congr {other : Graph α} (h : ∀ a, getItem a graph = getItem a other) :
    search graph stack visited members = search other stack visited members := by
  fun_induction search graph stack visited members with
  | case1 visited members => rw [search]
  | case2 visited members current stack hold ih =>
      rw [search, if_pos hold]
      exact ih
  | case3 visited members current stack hnew hnone =>
      rw [search, if_neg hnew]
      rw [h] at hnone
      split
      · rfl
      · rename_i htargets
        cases hnone.symm.trans htargets
  | case4 visited members current stack hnew targets htargets ih =>
      rw [ih]
      conv => rhs; rw [search]
      rw [if_neg hnew]
      rw [h] at htargets
      split
      · rename_i hnone
        cases htargets.symm.trans hnone
      · rename_i targets' htargets'
        obtain rfl : targets = targets' := Option.some.inj (htargets.symm.trans htargets')
        rfl

/-! ### Components -/

/-- The members of the searches from the seeds that are not visited yet. -/
def components (graph : Graph α) : List α → Finset α → Option (List (Finset α))
  | [], _ => some []
  | seed :: seeds, visited =>
      if seed ∈ visited then components graph seeds visited
      else
        match search graph [seed] visited ∅ with
        | none => none
        | some (visited, members) => (components graph seeds visited).map (members :: ·)

theorem components_congr {other : Graph α} (h : ∀ a, getItem a graph = getItem a other)
    (seeds : List α) (visited : Finset α) :
    components graph seeds visited = components other seeds visited := by
  induction seeds generalizing visited with
  | nil => rfl
  | cons seed seeds ih =>
      rw [components, components, search_congr h]
      simp only [ih]

structure Classes (graph : Graph α) (seeds : List α) (visited : Finset α)
    (parts : List (Finset α)) : Prop where
  apart : parts.Pairwise Disjoint
  fresh : ∀ part ∈ parts, Disjoint part visited
  whole : ∀ part ∈ parts, ∃ seed ∈ seeds, ∀ a,
    a ∈ part ↔ Relation.ReflTransGen (Leads graph) seed a
  complete : ∀ seed ∈ seeds, seed ∈ visited ∨ ∃ part ∈ parts, seed ∈ part

theorem reflTransGen_mem {found : Finset α} (h : ∀ a ∈ found, ∀ b, Leads graph a b → b ∈ found)
    {a b : α} (ha : a ∈ found) (hpath : Relation.ReflTransGen (Leads graph) a b) : b ∈ found := by
  induction hpath with
  | refl => exact ha
  | tail _ hstep ih => exact h _ ih _ hstep

theorem components_eq_some (hgraph : Closed graph)
    (hsymm : ∀ a b, Leads graph a b → Leads graph b a)
    {seeds : List α} (hseeds : ∀ a ∈ seeds, a ∈ graph.map Prod.fst)
    (hvisited : ∀ a ∈ visited, ∀ b, Leads graph a b → b ∈ visited) :
    ∃ parts, components graph seeds visited = some parts ∧
      Classes graph seeds visited parts := by
  induction seeds generalizing visited with
  | nil =>
      refine ⟨[], rfl, List.Pairwise.nil, ?_, ?_, ?_⟩
      · intro part hpart
        cases hpart
      · intro part hpart
        cases hpart
      · intro seed hseed
        cases hseed
  | cons seed seeds ih =>
      obtain ⟨hseed, hseeds⟩ := List.forall_mem_cons.mp hseeds
      by_cases hold : seed ∈ visited
      · obtain ⟨parts, hparts, hclasses⟩ := ih hseeds hvisited
        refine ⟨parts, by rw [components, if_pos hold, hparts], hclasses.apart, hclasses.fresh,
          ?_, ?_⟩
        · intro part hpart
          obtain ⟨start, hstart, hwhole⟩ := hclasses.whole part hpart
          exact ⟨start, List.mem_cons_of_mem _ hstart, hwhole⟩
        · intro other hother
          rcases List.mem_cons.mp hother with rfl | hother
          · exact .inl hold
          · exact hclasses.complete other hother
      · obtain ⟨found, hsearch, hadds⟩ :
            ∃ found, search graph [seed] visited ∅ = some (visited ∪ found, ∅ ∪ found) ∧
              Adds graph [seed] visited found :=
          search_eq_some hgraph (by simpa using hseed)
        have hmem : seed ∈ found :=
          (Finset.mem_union.mp (hadds.complete seed (List.mem_singleton_self _))).resolve_left hold
        -- an edge to a node visited before would go back from there
        have hfound : ∀ a ∈ found, ∀ b, Leads graph a b → b ∈ found := by
          intro a ha b hab
          rcases Finset.mem_union.mp (hadds.closed a ha b hab) with hb | hb
          · exact absurd (hvisited b hb a (hsymm a b hab)) (Finset.disjoint_left.mp hadds.fresh ha)
          · exact hb
        have hunion : ∀ a ∈ visited ∪ found, ∀ b, Leads graph a b → b ∈ visited ∪ found := by
          intro a ha b hab
          rcases Finset.mem_union.mp ha with ha | ha
          · exact Finset.mem_union_left _ (hvisited a ha b hab)
          · exact Finset.mem_union_right _ (hfound a ha b hab)
        obtain ⟨parts, hparts, hclasses⟩ := ih hseeds hunion
        refine ⟨found :: parts, ?_, ?_, ?_, ?_, ?_⟩
        · rw [components, if_neg hold, hsearch, Finset.empty_union]
          simp only [hparts]
          rfl
        · refine List.pairwise_cons.mpr ⟨fun part hpart => ?_, hclasses.apart⟩
          exact (Finset.disjoint_union_right.mp (hclasses.fresh part hpart)).2.symm
        · intro part hpart
          rcases List.mem_cons.mp hpart with rfl | hpart
          · exact hadds.fresh
          · exact (Finset.disjoint_union_right.mp (hclasses.fresh part hpart)).1
        · intro part hpart
          rcases List.mem_cons.mp hpart with rfl | hpart
          · refine ⟨seed, List.mem_cons_self, fun a => ⟨fun ha => ?_, reflTransGen_mem hfound hmem⟩⟩
            obtain ⟨start, hstart, hpath⟩ := hadds.reached a ha
            rwa [List.mem_singleton.mp hstart] at hpath
          · obtain ⟨start, hstart, hwhole⟩ := hclasses.whole part hpart
            exact ⟨start, List.mem_cons_of_mem _ hstart, hwhole⟩
        · intro other hother
          rcases List.mem_cons.mp hother with rfl | hother
          · exact .inr ⟨found, List.mem_cons_self, hmem⟩
          · rcases hclasses.complete other hother with hother | ⟨part, hpart, hother⟩
            · rcases Finset.mem_union.mp hother with hother | hother
              · exact .inl hother
              · exact .inr ⟨found, List.mem_cons_self, hother⟩
            · exact .inr ⟨part, List.mem_cons_of_mem _ hpart, hother⟩

end MindscapeLocalCore.Library.StackSearch
