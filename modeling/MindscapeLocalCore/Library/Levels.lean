import Mathlib.Data.Finset.Basic
import Mathlib.Data.Finset.Card

/-!
The nodes of a graph by their distance from some seeds, along edges in either direction, and the
edges by when a search of one level after the other comes to them.
-/

namespace MindscapeLocalCore.Library.Levels

variable {α ε : Type} [DecidableEq α] (source target : ε → α) (edges : List ε) (seeds : Finset α)

def Touches (nodes : Finset α) (edge : ε) : Prop := source edge ∈ nodes ∨ target edge ∈ nodes

instance (nodes : Finset α) (edge : ε) : Decidable (Touches source target nodes edge) :=
  inferInstanceAs (Decidable (_ ∨ _))

/-- The nodes that are at most so many edges from a seed. -/
def within : ℕ → Finset α
  | 0 => seeds
  | d + 1 =>
      within d ∪ ((edges.filter fun edge => Touches source target (within d) edge).flatMap
        fun edge => [source edge, target edge]).toFinset

/-- The nodes at a distance. -/
def level : ℕ → Finset α
  | 0 => seeds
  | d + 1 => within source target edges seeds (d + 1) \ within source target edges seeds d

def TouchedBefore (edge : ε) : ℕ → Prop
  | 0 => False
  | d + 1 => Touches source target (within source target edges seeds d) edge

instance (edge : ε) : ∀ d, Decidable (TouchedBefore source target edges seeds edge d)
  | 0 => inferInstanceAs (Decidable False)
  | d + 1 => inferInstanceAs
      (Decidable (Touches source target (within source target edges seeds d) edge))

def edgesBefore (d : ℕ) : List ε :=
  edges.filter fun edge => TouchedBefore source target edges seeds edge d

def newEdges (d : ℕ) : List ε :=
  edges.filter fun edge => TouchedBefore source target edges seeds edge (d + 1) ∧
    ¬ TouchedBefore source target edges seeds edge d

inductive Walk : ℕ → α → α → Prop
  | nil (a : α) : Walk 0 a a
  | snoc {n : ℕ} {a b c : α} {edge : ε} (walk : Walk n a b) (mem : edge ∈ edges)
      (ends : source edge = b ∧ target edge = c ∨ source edge = c ∧ target edge = b) :
      Walk (n + 1) a c

/-- The shortest walks from the seeds have so many edges. -/
def IsDistance (d : ℕ) (a : α) : Prop :=
  (∃ seed ∈ seeds, Walk source target edges d seed a) ∧
    ∀ n < d, ∀ seed ∈ seeds, ¬ Walk source target edges n seed a

variable {source target edges seeds} {a b : α} {edge : ε} {d k : ℕ}

theorem mem_within_succ :
    a ∈ within source target edges seeds (d + 1) ↔
      a ∈ within source target edges seeds d ∨
        ∃ edge ∈ edges, Touches source target (within source target edges seeds d) edge ∧
          (source edge = a ∨ target edge = a) := by
  simp only [within, Finset.mem_union, List.mem_toFinset, List.mem_flatMap, List.mem_filter,
    decide_eq_true_eq, List.mem_cons, List.not_mem_nil, or_false, and_assoc, eq_comm (a := a)]

theorem within_mono (h : d ≤ k) :
    within source target edges seeds d ⊆ within source target edges seeds k := by
  induction h with
  | refl => exact Finset.Subset.refl _
  | step _ ih => exact fun a ha => mem_within_succ.mpr (.inl (ih ha))

omit [DecidableEq α] in
theorem touches_mono {nodes nodes' : Finset α} (h : nodes ⊆ nodes')
    (htouches : Touches source target nodes edge) : Touches source target nodes' edge :=
  htouches.imp (fun hmem => h hmem) fun hmem => h hmem

theorem touchedBefore_mono (h : d ≤ k) (htouched : TouchedBefore source target edges seeds edge d) :
    TouchedBefore source target edges seeds edge k := by
  cases d with
  | zero => exact htouched.elim
  | succ d =>
      obtain ⟨k, rfl⟩ : ∃ k', k = k' + 1 := ⟨k - 1, by omega⟩
      exact touches_mono (within_mono (by omega)) htouched

theorem ends_mem_within (hmem : edge ∈ edges)
    (h : TouchedBefore source target edges seeds edge d) :
    source edge ∈ within source target edges seeds d ∧
      target edge ∈ within source target edges seeds d := by
  cases d with
  | zero => exact h.elim
  | succ d =>
      exact ⟨mem_within_succ.mpr (.inr ⟨edge, hmem, h, .inl rfl⟩),
        mem_within_succ.mpr (.inr ⟨edge, hmem, h, .inr rfl⟩)⟩

theorem level_subset_within : level source target edges seeds d ⊆
    within source target edges seeds d := by
  cases d with
  | zero => exact Finset.Subset.refl _
  | succ d => exact Finset.sdiff_subset

theorem mem_within_iff_level :
    a ∈ within source target edges seeds d ↔
      ∃ k ≤ d, a ∈ level source target edges seeds k := by
  constructor
  · intro ha
    induction d with
    | zero => exact ⟨0, Nat.le_refl 0, ha⟩
    | succ d ih =>
        by_cases hold : a ∈ within source target edges seeds d
        · obtain ⟨k, hk, hlevel⟩ := ih hold
          exact ⟨k, Nat.le_succ_of_le hk, hlevel⟩
        · exact ⟨d + 1, Nat.le_refl _, Finset.mem_sdiff.mpr ⟨ha, hold⟩⟩
  · rintro ⟨k, hk, hlevel⟩
    exact within_mono hk (level_subset_within hlevel)

theorem not_mem_within_of_level (h : a ∈ level source target edges seeds k) (hd : d < k) :
    a ∉ within source target edges seeds d := by
  obtain ⟨k, rfl⟩ : ∃ k', k = k' + 1 := ⟨k - 1, by omega⟩
  exact fun hmem => (Finset.mem_sdiff.mp h).2 (within_mono (by omega) hmem)

theorem mem_within_iff_walk :
    a ∈ within source target edges seeds d ↔
      ∃ seed ∈ seeds, ∃ n ≤ d, Walk source target edges n seed a := by
  constructor
  · intro ha
    induction d generalizing a with
    | zero => exact ⟨a, ha, 0, Nat.le_refl 0, .nil a⟩
    | succ d ih =>
        rcases mem_within_succ.mp ha with hold | ⟨edge, hmem, htouches, hend⟩
        · obtain ⟨seed, hseed, n, hn, hwalk⟩ := ih hold
          exact ⟨seed, hseed, n, Nat.le_succ_of_le hn, hwalk⟩
        · by_cases hnear : a ∈ within source target edges seeds d
          · obtain ⟨seed, hseed, n, hn, hwalk⟩ := ih hnear
            exact ⟨seed, hseed, n, Nat.le_succ_of_le hn, hwalk⟩
          · obtain ⟨b, hb, hends⟩ : ∃ b ∈ within source target edges seeds d,
                source edge = b ∧ target edge = a ∨ source edge = a ∧ target edge = b := by
              rcases hend with hsource | htarget
              · rcases htouches with hnode | hnode
                · exact absurd (hsource ▸ hnode) hnear
                · exact ⟨_, hnode, .inr ⟨hsource, rfl⟩⟩
              · rcases htouches with hnode | hnode
                · exact ⟨_, hnode, .inl ⟨rfl, htarget⟩⟩
                · exact absurd (htarget ▸ hnode) hnear
            obtain ⟨seed, hseed, n, hn, hwalk⟩ := ih hb
            exact ⟨seed, hseed, n + 1, Nat.succ_le_succ hn, hwalk.snoc hmem hends⟩
  · rintro ⟨seed, hseed, n, hn, hwalk⟩
    refine within_mono hn ?_
    clear hn
    induction hwalk with
    | nil a => exact hseed
    | snoc _ hmem hends ih =>
        rcases hends with ⟨hb, hc⟩ | ⟨hc, hb⟩
        · exact mem_within_succ.mpr (.inr ⟨_, hmem, .inl (hb ▸ ih hseed), .inr hc⟩)
        · exact mem_within_succ.mpr (.inr ⟨_, hmem, .inr (hb ▸ ih hseed), .inl hc⟩)

theorem mem_level_iff_isDistance :
    a ∈ level source target edges seeds d ↔ IsDistance source target edges seeds d a := by
  constructor
  · intro h
    obtain ⟨seed, hseed, n, hn, hwalk⟩ := mem_within_iff_walk.mp (level_subset_within h)
    have hfar : ∀ n < d, ∀ seed ∈ seeds, ¬ Walk source target edges n seed a := by
      intro n hn seed hseed hwalk
      exact not_mem_within_of_level h hn
        (mem_within_iff_walk.mpr ⟨seed, hseed, n, Nat.le_refl n, hwalk⟩)
    rcases Nat.lt_or_eq_of_le hn with hlt | rfl
    · exact absurd hwalk (hfar n hlt seed hseed)
    · exact ⟨⟨seed, hseed, hwalk⟩, hfar⟩
  · rintro ⟨⟨seed, hseed, hwalk⟩, hfar⟩
    have hwithin : a ∈ within source target edges seeds d :=
      mem_within_iff_walk.mpr ⟨seed, hseed, d, Nat.le_refl d, hwalk⟩
    obtain ⟨k, hk, hlevel⟩ := mem_within_iff_level.mp hwithin
    rcases Nat.lt_or_eq_of_le hk with hlt | rfl
    · obtain ⟨seed, hseed, n, hn, hwalk⟩ := mem_within_iff_walk.mp (level_subset_within hlevel)
      exact absurd hwalk (hfar n (Nat.lt_of_le_of_lt hn hlt) seed hseed)
    · exact hlevel

/-! ### The edges of a level -/

theorem mem_edgesBefore :
    edge ∈ edgesBefore source target edges seeds d ↔
      edge ∈ edges ∧ TouchedBefore source target edges seeds edge d := by
  rw [edgesBefore, List.mem_filter, decide_eq_true_eq]

theorem mem_newEdges :
    edge ∈ newEdges source target edges seeds d ↔
      edge ∈ edges ∧ TouchedBefore source target edges seeds edge (d + 1) ∧
        ¬ TouchedBefore source target edges seeds edge d := by
  rw [newEdges, List.mem_filter, decide_eq_true_eq]

theorem mem_edgesBefore_succ :
    edge ∈ edgesBefore source target edges seeds (d + 1) ↔
      edge ∈ edgesBefore source target edges seeds d ∨
        edge ∈ newEdges source target edges seeds d := by
  rw [mem_edgesBefore, mem_edgesBefore, mem_newEdges, ← and_or_left]
  refine and_congr_right fun _ => ?_
  by_cases h : TouchedBefore source target edges seeds edge d
  · exact iff_of_true (touchedBefore_mono (Nat.le_succ d) h) (.inl h)
  · simp [h]

theorem touches_level_of_new
    (h : TouchedBefore source target edges seeds edge (d + 1))
    (hnew : ¬ TouchedBefore source target edges seeds edge d) :
    Touches source target (level source target edges seeds d) edge := by
  cases d with
  | zero => exact h
  | succ d =>
      refine h.imp (fun hnode => ?_) fun hnode => ?_
      · exact Finset.mem_sdiff.mpr ⟨hnode, fun hnear => hnew (.inl hnear)⟩
      · exact Finset.mem_sdiff.mpr ⟨hnode, fun hnear => hnew (.inr hnear)⟩

theorem touchedBefore_of_level
    (h : Touches source target (level source target edges seeds d) edge) :
    TouchedBefore source target edges seeds edge (d + 1) :=
  touches_mono level_subset_within h

theorem exists_newEdge (h : a ∈ level source target edges seeds (d + 1)) :
    ∃ edge ∈ newEdges source target edges seeds d, source edge = a ∨ target edge = a := by
  obtain ⟨hmem, hfar⟩ := Finset.mem_sdiff.mp h
  rcases mem_within_succ.mp hmem with hnear | ⟨edge, hedge, htouches, hend⟩
  · exact absurd hnear hfar
  · refine ⟨edge, mem_newEdges.mpr ⟨hedge, htouches, fun hbefore => hfar ?_⟩, hend⟩
    obtain ⟨hsource, htarget⟩ := ends_mem_within hedge hbefore
    rcases hend with rfl | rfl
    · exact hsource
    · exact htarget

theorem within_succ_of_nil (h : newEdges source target edges seeds d = []) :
    within source target edges seeds (d + 1) = within source target edges seeds d := by
  refine Finset.Subset.antisymm (fun a ha => ?_) (within_mono (Nat.le_succ d))
  by_contra hfar
  obtain ⟨edge, hmem, -⟩ := exists_newEdge (Finset.mem_sdiff.mpr ⟨ha, hfar⟩)
  rw [h] at hmem
  cases hmem

theorem level_succ_of_nil (h : newEdges source target edges seeds d = []) :
    level source target edges seeds (d + 1) = ∅ := by
  rw [level, within_succ_of_nil h, Finset.sdiff_self]

theorem edgesBefore_succ_of_nil (h : newEdges source target edges seeds d = []) :
    edgesBefore source target edges seeds (d + 1) = edgesBefore source target edges seeds d := by
  refine List.filter_congr fun edge hedge => decide_eq_decide.mpr ⟨fun htouched => ?_,
    touchedBefore_mono (Nat.le_succ d)⟩
  by_contra hbefore
  have hmem := mem_newEdges.mpr ⟨hedge, htouched, hbefore⟩
  rw [h] at hmem
  cases hmem

end MindscapeLocalCore.Library.Levels
