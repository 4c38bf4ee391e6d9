import Mathlib.Algebra.Order.BigOperators.Group.Finset
import Mathlib.Algebra.Order.Group.Int
import Mathlib.Data.Fintype.Card
import Mathlib.Data.Fintype.EquivFin
import Mathlib.Data.Fintype.Sets
import Mathlib.Data.List.Basic
import Mathlib.Data.List.Count
import Mathlib.Data.List.Nodup
import Mathlib.Logic.Function.Basic
import Mathlib.Logic.Relation
import Mathlib.Order.WellFounded
import Mathlib.Tactic.Ring

/-!
Dependencies among finitely many nodes. A set whose members all depend on another
member has a cycle, and edges that are consumed one at a time are counted.
-/

namespace MindscapeLocalCore.Library.Dependencies

variable {α : Type}

section Cycles

variable {needs : α → α → Prop}

/-- No node depends on itself, through however many others. -/
def Acyclic (needs : α → α → Prop) : Prop := ∀ x, ¬ Relation.TransGen needs x x

/-- Every member depends on a member. -/
def Trapped (needs : α → α → Prop) (s : Set α) : Prop := ∀ x ∈ s, ∃ y ∈ s, needs x y

theorem Acyclic.mono {fewer : α → α → Prop} (h : Acyclic needs)
    (hle : ∀ x y, fewer x y → needs x y) : Acyclic fewer :=
  fun x hx => h x (Relation.TransGen.mono hle x x hx)

theorem Acyclic.irrefl (h : Acyclic needs) (x : α) : ¬ needs x x :=
  fun hx => h x (Relation.TransGen.single hx)

theorem acyclic_of_rank (rank : α → ℕ) (h : ∀ x y, needs x y → rank y < rank x) :
    Acyclic needs := by
  have hrank : ∀ x y, Relation.TransGen needs x y → rank y < rank x := by
    intro x y hxy
    induction hxy with
    | single hstep => exact h x _ hstep
    | tail _ hstep ih => exact (h _ _ hstep).trans ih
  exact fun x hx => absurd (hrank x x hx) (Nat.lt_irrefl _)

theorem exists_free (h : Acyclic needs) (s : Finset α) (hne : s.Nonempty) :
    ∃ x ∈ s, ∀ y ∈ s, ¬ needs x y := by
  let below : s → s → Prop := fun y x => Relation.TransGen needs x y
  have htrans : IsTrans s below := ⟨fun _ _ _ hxy hyz => hyz.trans hxy⟩
  have hirrefl : Std.Irrefl below := ⟨fun x => h x⟩
  have hwf : WellFounded below := Finite.wellFounded_of_trans_of_irrefl below
  obtain ⟨start, hstart⟩ := hne
  obtain ⟨x, -, hx⟩ := hwf.has_min Set.univ ⟨⟨start, hstart⟩, trivial⟩
  refine ⟨x, x.2, fun y hy hneeds => ?_⟩
  exact hx ⟨y, hy⟩ trivial (Relation.TransGen.single hneeds)

theorem Acyclic.insert {more : α → α → Prop} (h : Acyclic needs) {x : α}
    (hmore : ∀ a b, more a b → needs a b ∨ a = x) (hlast : ∀ a, ¬ more a x) : Acyclic more := by
  have hold : ∀ a b, Relation.TransGen more a b → a ≠ x → Relation.TransGen needs a b := by
    intro a b hab ha
    induction hab with
    | single hstep => exact Relation.TransGen.single ((hmore a _ hstep).resolve_right ha)
    | tail hpath hstep ih =>
        refine ih.tail ((hmore _ _ hstep).resolve_right ?_)
        rintro rfl
        obtain ⟨c, -, hc⟩ := Relation.TransGen.tail'_iff.mp hpath
        exact hlast c hc
  intro a ha
  by_cases hax : a = x
  · subst hax
    obtain ⟨c, -, hc⟩ := Relation.TransGen.tail'_iff.mp ha
    exact hlast c hc
  · exact h a (hold a a ha hax)

theorem trapped_cycles : Trapped needs {x | Relation.TransGen needs x x} := by
  intro x hx
  obtain ⟨y, hxy, hyx⟩ := Relation.TransGen.head'_iff.mp hx
  exact ⟨y, Relation.TransGen.tail' hyx hxy, hxy⟩

theorem not_marked_of_trapped {β : Type} {history : List β} {mark : α → β → Prop}
    (horder : ∀ x before event after, history = before ++ event :: after → mark x event →
      ∀ y, needs x y → ∃ earlier ∈ before, mark y earlier)
    {s : Set α} (htrapped : Trapped needs s) {x : α} (hx : x ∈ s) :
    ∀ event ∈ history, ¬ mark x event := by
  -- a mark on a member comes after a mark on another one
  have hnone : ∀ n, ∀ x ∈ s, ∀ before event after, history = before ++ event :: after →
      mark x event → before.length ≠ n := by
    intro n
    induction n using Nat.strong_induction_on with
    | _ n ih =>
        intro x hx before event after hsplit hmark hlength
        obtain ⟨y, hy, hneeds⟩ := htrapped x hx
        obtain ⟨earlier, hmem, hmark'⟩ := horder x before event after hsplit hmark y hneeds
        obtain ⟨first, last, rfl⟩ := List.append_of_mem hmem
        rw [List.append_assoc, List.cons_append] at hsplit
        refine ih first.length ?_ y hy first earlier _ hsplit hmark' rfl
        rw [← hlength, List.length_append, List.length_cons]
        omega
  intro event hevent hmark
  obtain ⟨before, after, hsplit⟩ := List.append_of_mem hevent
  exact hnone before.length x hx before event after hsplit hmark rfl

end Cycles

section Edges

variable [DecidableEq α] {nodes : Finset α} {left : α → List α}

/-- The edges into `x` that are left. -/
def incoming (nodes : Finset α) (left : α → List α) (x : α) : ℕ :=
  ∑ d ∈ nodes, (left d).count x

theorem incoming_eq_zero {x : α} : incoming nodes left x = 0 ↔ ∀ d ∈ nodes, x ∉ left d := by
  rw [incoming, Finset.sum_eq_zero_iff]
  exact forall₂_congr fun d _ => List.count_eq_zero

theorem count_le_incoming {d : α} (hd : d ∈ nodes) (x : α) :
    (left d).count x ≤ incoming nodes left x := by
  have hnonneg : ∀ e ∈ nodes, 0 ≤ (left e).count x := fun e _ => Nat.zero_le _
  exact Finset.single_le_sum hnonneg hd

theorem incoming_update {d : α} (hd : d ∈ nodes) (edges : List α) (x : α) :
    incoming nodes (Function.update left d edges) x + (left d).count x =
      incoming nodes left x + edges.count x := by
  have hrest : ∑ e ∈ nodes.erase d, (Function.update left d edges e).count x =
      ∑ e ∈ nodes.erase d, (left e).count x := by
    refine Finset.sum_congr rfl fun e he => ?_
    rw [Function.update_of_ne (Finset.ne_of_mem_erase he)]
  rw [incoming, incoming, ← Finset.add_sum_erase _ _ hd,
    ← Finset.add_sum_erase nodes (fun e => (left e).count x) hd, hrest, Function.update_self]
  omega

theorem incoming_consume {d y : α} {rest : List α} (hd : d ∈ nodes) (hleft : left d = y :: rest)
    (x : α) :
    incoming nodes left x =
      incoming nodes (Function.update left d rest) x + if y = x then 1 else 0 := by
  have h : incoming nodes (Function.update left d rest) x + (left d).count x =
      incoming nodes left x + rest.count x := incoming_update hd rest x
  rw [hleft, List.count_cons] at h
  simp only [beq_iff_eq] at h
  omega

theorem incoming_append {d y : α} (hd : d ∈ nodes) (x : α) :
    incoming nodes (Function.update left d (left d ++ [y])) x =
      incoming nodes left x + if y = x then 1 else 0 := by
  have h : incoming nodes (Function.update left d (left d ++ [y])) x + (left d).count x =
      incoming nodes left x + (left d ++ [y]).count x := incoming_update hd _ x
  rw [List.count_append, List.count_singleton] at h
  simp only [beq_iff_eq] at h
  omega

theorem incoming_insert {d : α} (hd : d ∉ nodes) (hnone : left d = []) (x : α) :
    incoming (insert d nodes) left x = incoming nodes left x := by
  rw [incoming, Finset.sum_insert hd, hnone, List.count_nil, Nat.zero_add, incoming]

end Edges

end MindscapeLocalCore.Library.Dependencies

/-!
Depth-first search for a cycle, with a limit on the depth of the calls. The nodes that it
has left are listed after everything that they lead to.
-/

namespace MindscapeLocalCore.Library.DepthFirst

variable {α : Type}

inductive Visit (α : Type) where
  | tooDeep
  | cycle
  | done (visited : List α)
deriving DecidableEq

def Visit.andThen (found : Visit α) (next : List α → Visit α) : Visit α :=
  match found with
  | .tooDeep => .tooDeep
  | .cycle => .cycle
  | .done visited => next visited

theorem Visit.andThen_eq_done {found : Visit α} {next : List α → Visit α} {visited : List α}
    (h : found.andThen next = .done visited) : ∃ before, found = .done before ∧
      next before = .done visited := by
  match found, h with
  | .done before, h => exact ⟨before, rfl, h⟩

def visitEach (visit : List α → α → Visit α) : List α → List α → Visit α
  | visited, [] => .done visited
  | visited, node :: rest =>
      (visit visited node).andThen fun visited => visitEach visit visited rest

/-- Every node stands before all that it leads to. -/
def Postorder (targets : α → List α) : List α → Prop
  | [] => True
  | node :: rest => (∀ target ∈ targets node, target ∈ rest) ∧ Postorder targets rest

/-- The visit keeps the order and leaves `node` visited. -/
def Leaves (targets : α → List α) (visited : List α) (node : α) (after : List α) : Prop :=
  Postorder targets after ∧ visited ⊆ after ∧ node ∈ after

section Visits

variable {targets : α → List α} {visit : List α → α → Visit α}

theorem leaves_visitEach
    (hvisit : ∀ visited node after, Postorder targets visited →
      visit visited node = .done after → Leaves targets visited node after)
    {nodes visited after : List α} (hvisited : Postorder targets visited)
    (h : visitEach visit visited nodes = .done after) :
    Postorder targets after ∧ visited ⊆ after ∧ ∀ node ∈ nodes, node ∈ after := by
  induction nodes generalizing visited with
  | nil =>
      obtain rfl := Visit.done.inj h
      exact ⟨hvisited, List.Subset.refl _, fun node hnode => absurd hnode List.not_mem_nil⟩
  | cons first rest ih =>
      obtain ⟨between, hfirst, hrest⟩ := Visit.andThen_eq_done h
      obtain ⟨horder, hsubset, hmem⟩ := hvisit visited first between hvisited hfirst
      obtain ⟨horder', hsubset', hmem'⟩ := ih horder hrest
      refine ⟨horder', fun x hx => hsubset' (hsubset hx), fun node hnode => ?_⟩
      rcases List.mem_cons.mp hnode with rfl | hnode
      · exact hsubset' hmem
      · exact hmem' node hnode

end Visits

theorem exists_height [DecidableEq α] {targets : α → List α} {order : List α}
    (h : Postorder targets order) :
    ∃ height : α → ℕ, (∀ node ∈ order, height node < order.length) ∧
      ∀ node ∈ order, ∀ target ∈ targets node, target ∈ order ∧ height target < height node := by
  induction order with
  | nil => exact ⟨fun _ => 0, fun node hnode => absurd hnode List.not_mem_nil,
      fun node hnode => absurd hnode List.not_mem_nil⟩
  | cons first rest ih =>
      obtain ⟨hfirst, hrest⟩ := h
      obtain ⟨height, hbound, hheight⟩ := ih hrest
      have hlength : (first :: rest).length = rest.length + 1 := List.length_cons
      by_cases hmem : first ∈ rest
      · have hold : ∀ node ∈ first :: rest, node ∈ rest := by
          intro node hnode
          rcases List.mem_cons.mp hnode with rfl | hnode
          · exact hmem
          · exact hnode
        refine ⟨height, fun node hnode => ?_, fun node hnode target htarget => ?_⟩
        · have hlt := hbound node (hold node hnode)
          omega
        · obtain ⟨hin, hlt⟩ := hheight node (hold node hnode) target htarget
          exact ⟨List.mem_cons_of_mem _ hin, hlt⟩
      · -- the new node gets a height above all others
        have hother : ∀ node ∈ rest, Function.update height first rest.length node = height node := by
          intro node hnode
          refine Function.update_of_ne ?_ ..
          rintro rfl
          exact hmem hnode
        have hself : Function.update height first rest.length first = rest.length :=
          Function.update_self ..
        refine ⟨Function.update height first rest.length, fun node hnode => ?_,
          fun node hnode target htarget => ?_⟩
        · rcases List.mem_cons.mp hnode with rfl | hnode
          · rw [hself, hlength]
            exact Nat.lt_succ_self _
          · have hlt := hbound node hnode
            rw [hother node hnode, hlength]
            omega
        · rcases List.mem_cons.mp hnode with rfl | hnode
          · have hin := hfirst target htarget
            refine ⟨List.mem_cons_of_mem _ hin, ?_⟩
            rw [hself, hother target hin]
            exact hbound target hin
          · obtain ⟨hin, hlt⟩ := hheight node hnode target htarget
            refine ⟨List.mem_cons_of_mem _ hin, ?_⟩
            rw [hother node hnode, hother target hin]
            exact hlt

section Search

variable [DecidableEq α] (targets : α → List α)

/-- Visit what a node leads to, and leave it; a node that is still being visited closes a
cycle. -/
def visit : ℕ → List α → List α → α → Visit α
  | 0, _, _, _ => .tooDeep
  | depth + 1, visiting, visited, node =>
      if node ∈ visiting then .cycle
      else if node ∈ visited then .done visited
      else (visitEach (visit depth (node :: visiting)) visited (targets node)).andThen
        fun visited => .done (node :: visited)

variable {targets}

theorem leaves_visit {depth : ℕ} {visiting visited : List α} {node : α} {after : List α}
    (hvisited : Postorder targets visited)
    (h : visit targets depth visiting visited node = .done after) :
    Leaves targets visited node after := by
  induction depth generalizing visiting visited node after with
  | zero => cases h
  | succ depth ih =>
      rw [visit] at h
      split at h
      · cases h
      · split at h
        · rename_i hmem
          obtain rfl := Visit.done.inj h
          exact ⟨hvisited, List.Subset.refl _, hmem⟩
        · obtain ⟨between, hbetween, hdone⟩ := Visit.andThen_eq_done h
          obtain rfl := Visit.done.inj hdone
          obtain ⟨horder, hsubset, hall⟩ :=
            leaves_visitEach (fun visited node after => ih) hvisited hbetween
          exact ⟨⟨hall, horder⟩, fun x hx => List.mem_cons_of_mem _ (hsubset hx),
            List.mem_cons_self⟩

/-- A search that ends without a cycle has found none: no node that was searched from leads
back to itself. -/
theorem acyclic_of_visitEach {depth : ℕ} {nodes visited : List α}
    (h : visitEach (visit targets depth []) [] nodes = .done visited)
    (hclosed : ∀ node, targets node ≠ [] → node ∈ nodes) :
    Dependencies.Acyclic fun node target => target ∈ targets node := by
  have hempty : Postorder targets [] := trivial
  obtain ⟨horder, -, hall⟩ :=
    leaves_visitEach (fun visited node after => leaves_visit) hempty h
  obtain ⟨height, -, hheight⟩ := exists_height horder
  refine Dependencies.acyclic_of_rank height fun node target htarget => ?_
  have hnode : node ∈ visited := hall node (hclosed node (List.ne_nil_of_mem htarget))
  exact (hheight node hnode target htarget).2

end Search

end MindscapeLocalCore.Library.DepthFirst

/-!
In-degrees of a directed graph that are counted down, edge by edge; a node becomes ready
when its count gets to zero.
-/

namespace MindscapeLocalCore.Library.InDegrees

variable {α : Type} [DecidableEq α]

/-- Count an edge to each node of a list, and add the node to those that are ready when
its count gets to zero. -/
def discharge : List α → (α → ℤ) × List α → (α → ℤ) × List α
  | [], s => s
  | target :: rest, (degree, ready) =>
      discharge rest
        (Function.update degree target (degree target - 1),
          if degree target - 1 = 0 then ready ++ [target] else ready)

variable {targets ready : List α} {degree : α → ℤ}

theorem discharge_degree (x : α) :
    (discharge targets (degree, ready)).1 x = degree x - targets.count x := by
  induction targets generalizing degree ready with
  | nil => simp [discharge]
  | cons target rest ih =>
      rw [discharge, ih, List.count_cons]
      by_cases hx : target = x
      · subst hx
        rw [Function.update_self, if_pos (beq_self_eq_true target)]
        push_cast
        ring
      · rw [Function.update_of_ne (Ne.symm hx), if_neg (by simpa using hx)]
        rfl

/-- The nodes that become ready are those whose count was positive and is used up, each of
them once. -/
theorem discharge_ready :
    ∃ new, (discharge targets (degree, ready)).2 = ready ++ new ∧ new.Nodup ∧
      ∀ x, x ∈ new ↔ 0 < degree x ∧ degree x ≤ targets.count x := by
  induction targets generalizing degree ready with
  | nil =>
      refine ⟨[], (List.append_nil _).symm, List.nodup_nil, fun x => ?_⟩
      rw [List.count_nil]
      constructor
      · intro hx
        cases hx
      · intro hx
        omega
  | cons target rest ih =>
      obtain ⟨new, hready, hnodup, hnew⟩ := @ih
        (if degree target - 1 = 0 then ready ++ [target] else ready)
        (Function.update degree target (degree target - 1))
      have hself : Function.update degree target (degree target - 1) target = degree target - 1 :=
        Function.update_self ..
      have hcount : ∀ x, target ≠ x → (target :: rest).count x = rest.count x := by
        intro x hx
        rw [List.count_cons, if_neg (by simpa using hx)]
        rfl
      have hother : ∀ x, target ≠ x → (x ∈ new ↔ 0 < degree x ∧ degree x ≤ (target :: rest).count x) := by
        intro x hx
        rw [hnew, Function.update_of_ne (Ne.symm hx), hcount x hx]
      have htarget : (target :: rest).count target = rest.count target + 1 := List.count_cons_self
      have hmem := hnew target
      rw [hself] at hmem
      rw [discharge]
      by_cases hzero : degree target - 1 = 0
      · rw [if_pos hzero] at hready ⊢
        have hnot : target ∉ new := by
          rw [hmem]
          omega
        refine ⟨target :: new, ?_, List.nodup_cons.mpr ⟨hnot, hnodup⟩, fun x => ?_⟩
        · rw [hready, List.append_assoc]
          rfl
        · by_cases hx : target = x
          · subst hx
            rw [htarget]
            refine iff_of_true List.mem_cons_self ?_
            omega
          · rw [List.mem_cons, hother x hx]
            exact or_iff_right (Ne.symm hx)
      · rw [if_neg hzero] at hready ⊢
        refine ⟨new, hready, hnodup, fun x => ?_⟩
        by_cases hx : target = x
        · subst hx
          rw [hmem, htarget]
          omega
        · exact hother x hx

/-! ### Edges from nodes that are not completed -/

variable {ε : Type} (source target : ε → α) (edges : List ε)

def pending (completed : List α) (x : α) : List ε :=
  edges.filter fun edge => target edge = x ∧ source edge ∉ completed

def targetsOf (x : α) : List α := (edges.filter fun edge => source edge = x).map target

variable {source target edges} {completed batch : List α} {x y : α}

theorem pending_eq_nil_iff :
    pending source target edges completed x = [] ↔
      ∀ edge ∈ edges, target edge = x → source edge ∈ completed := by
  rw [pending, List.filter_eq_nil_iff]
  simp only [decide_eq_true_eq, not_and, not_not]

theorem length_pending (hy : y ∉ completed) :
    (pending source target edges completed x).length =
      (pending source target edges (completed ++ [y]) x).length +
        (targetsOf source target edges y).count x := by
  induction edges with
  | nil => rfl
  | cons edge rest ih =>
      simp only [pending, targetsOf, List.filter_cons, List.mem_append, List.mem_singleton] at ih ⊢
      by_cases htarget : target edge = x
      · by_cases hsource : source edge = y
        · simp [htarget, hsource, hy] at ih ⊢
          omega
        · by_cases hdone : source edge ∈ completed
          · simp [htarget, hsource, hdone] at ih ⊢
            exact ih
          · simp [htarget, hsource, hdone] at ih ⊢
            omega
      · by_cases hsource : source edge = y
        · simp [htarget, hsource] at ih ⊢
          exact ih
        · simp [htarget, hsource] at ih ⊢
          exact ih

theorem length_pending_append (hnodup : batch.Nodup) (hfresh : ∀ y ∈ batch, y ∉ completed) :
    (pending source target edges completed x).length =
      (pending source target edges (completed ++ batch) x).length +
        (batch.flatMap (targetsOf source target edges)).count x := by
  induction batch generalizing completed with
  | nil => rw [List.append_nil, List.flatMap_nil, List.count_nil, Nat.add_zero]
  | cons y batch ih =>
      obtain ⟨hy, hrest⟩ := List.nodup_cons.mp hnodup
      have hsplit : completed ++ y :: batch = completed ++ [y] ++ batch := by
        rw [List.append_assoc]
        rfl
      have hfresh' : ∀ z ∈ batch, z ∉ completed ++ [y] := by
        intro z hz hmem
        rcases List.mem_append.mp hmem with hold | hlast
        · exact hfresh z (List.mem_cons_of_mem _ hz) hold
        · exact hy (List.mem_singleton.mp hlast ▸ hz)
      rw [length_pending (hfresh y List.mem_cons_self), ih hrest hfresh', hsplit,
        List.flatMap_cons, List.count_append]
      omega

/-- Counts that are those of the edges from nodes that are not completed stay so when a batch is
completed, and the nodes whose last edge this was become ready, each of them once. -/
theorem discharge_pending (hnodup : batch.Nodup) (hfresh : ∀ y ∈ batch, y ∉ completed)
    (hdegree : ∀ x, degree x = (pending source target edges completed x).length) :
    let after := discharge (batch.flatMap (targetsOf source target edges)) (degree, [])
    (∀ x, after.1 x = (pending source target edges (completed ++ batch) x).length) ∧
      after.2.Nodup ∧
      ∀ x, x ∈ after.2 ↔ pending source target edges completed x ≠ [] ∧
        pending source target edges (completed ++ batch) x = [] := by
  have hcount : ∀ x, (pending source target edges completed x).length =
      (pending source target edges (completed ++ batch) x).length +
        (batch.flatMap (targetsOf source target edges)).count x :=
    fun x => length_pending_append hnodup hfresh
  obtain ⟨new, hready, hnew, hmem⟩ := @discharge_ready α _
    (batch.flatMap (targetsOf source target edges)) [] degree
  rw [List.nil_append] at hready
  refine ⟨fun x => ?_, ?_, fun x => ?_⟩
  · have := hcount x
    rw [discharge_degree, hdegree]
    omega
  · rw [hready]
    exact hnew
  · have := hcount x
    rw [hready, hmem, hdegree, ← List.length_pos_iff, ← List.length_eq_zero_iff]
    omega

end MindscapeLocalCore.Library.InDegrees
