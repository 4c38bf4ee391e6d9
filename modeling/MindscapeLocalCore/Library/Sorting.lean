import Mathlib.Data.List.Basic
import Mathlib.Data.List.Dedup
import Mathlib.Data.List.Sort

/-!
Lists sorted by a key, and what becomes of their order.
-/

namespace MindscapeLocalCore.Library.Sorting

variable {α κ : Type} (r : κ → κ → Prop) [DecidableRel r] (key : α → κ)

/-- A list in the order of its keys, stable. -/
def sortBy (l : List α) : List α := l.insertionSort fun a b => r (key a) (key b)

/-- The keys of the list are in order. -/
def SortedBy (l : List α) : Prop := l.Pairwise fun a b => r (key a) (key b)

variable {r key} {l l' : List α}

theorem perm_sortBy (l : List α) : (sortBy r key l).Perm l := List.perm_insertionSort _ l

theorem mem_sortBy {a : α} : a ∈ sortBy r key l ↔ a ∈ l := List.mem_insertionSort _

theorem sortBy_map {β : Type} {key : β → κ} (f : α → β) (l : List α) :
    sortBy r key (l.map f) = (sortBy r (fun a => key (f a)) l).map f :=
  (List.map_insertionSort (r := fun a b => r (key (f a)) (key (f b)))
    (s := fun a b => r (key a) (key b)) f l fun _ _ _ _ => Iff.rfl).symm

variable [Std.Total r] [IsTrans κ r]

theorem sortedBy_sortBy (l : List α) : SortedBy r key (sortBy r key l) := by
  have : Std.Total fun a b : α => r (key a) (key b) := ⟨fun a b => Std.Total.total (key a) (key b)⟩
  have : IsTrans α fun a b => r (key a) (key b) := ⟨fun _ _ _ => IsTrans.trans (r := r) _ _ _⟩
  exact List.pairwise_insertionSort _ l

theorem sortBy_eq_self_iff : sortBy r key l = l ↔ SortedBy r key l :=
  ⟨fun h => h ▸ sortedBy_sortBy l, List.Pairwise.insertionSort_eq⟩

theorem filter_sortBy [DecidableEq κ] (k : κ) (l : List α) :
    (sortBy r key l).filter (fun a => key a = k) = l.filter fun a => key a = k := by
  have : Std.Total fun a b : α => r (key a) (key b) := ⟨fun a b => Std.Total.total (key a) (key b)⟩
  have : IsTrans α fun a b => r (key a) (key b) := ⟨fun _ _ _ => IsTrans.trans (r := r) _ _ _⟩
  let ties := l.filter fun a => key a = k
  have hkey : ∀ a ∈ ties, key a = k := fun a ha => of_decide_eq_true (List.mem_filter.mp ha).2
  have hsorted : ties.Pairwise fun a b => r (key a) (key b) := by
    refine List.pairwise_of_forall_mem_list fun a ha b hb => ?_
    rw [hkey a ha, hkey b hb]
    exact (Std.Total.total (r := r) k k).elim id id
  have hsublist : ties.Sublist (sortBy r key l) :=
    List.sublist_insertionSort hsorted List.filter_sublist
  have hfiltered := hsublist.filter fun a => key a = k
  rw [List.filter_filter] at hfiltered
  simp only [Bool.and_self] at hfiltered
  refine (hfiltered.eq_of_length ?_).symm
  exact ((perm_sortBy l).filter _).length_eq.symm

variable [Std.Antisymm r]

omit [DecidableRel r] [IsTrans κ r] in
theorem eq_of_filter [DecidableEq κ] (hl : SortedBy r key l) (hl' : SortedBy r key l')
    (hfilter : ∀ k, l.filter (fun a => key a = k) = l'.filter fun a => key a = k) : l = l' := by
  have hmem : ∀ {l l' : List α}, (∀ k, l.filter (fun a => key a = k) =
      l'.filter fun a => key a = k) → ∀ a ∈ l, a ∈ l' := by
    intro l l' hfilter a ha
    have htie : a ∈ l.filter fun b => key b = key a :=
      List.mem_filter.mpr ⟨ha, decide_eq_true rfl⟩
    rw [hfilter] at htie
    exact (List.mem_filter.mp htie).1
  induction l generalizing l' with
  | nil =>
      cases l' with
      | nil => rfl
      | cons b l' => exact absurd (hmem (fun k => (hfilter k).symm) b List.mem_cons_self) (by simp)
  | cons a l ih =>
      cases l' with
      | nil => exact absurd (hmem hfilter a List.mem_cons_self) (by simp)
      | cons b l' =>
          have hrefl : ∀ k, r k k := fun k => (Std.Total.total (r := r) k k).elim id id
          -- Each of the two heads comes before all that is in either list.
          have hab : r (key a) (key b) := by
            rcases List.mem_cons.mp (hmem (fun k => (hfilter k).symm) b List.mem_cons_self) with
              rfl | hb
            · exact hrefl _
            · exact (List.pairwise_cons.mp hl).1 b hb
          have hba : r (key b) (key a) := by
            rcases List.mem_cons.mp (hmem hfilter a List.mem_cons_self) with rfl | ha
            · exact hrefl _
            · exact (List.pairwise_cons.mp hl').1 a ha
          have hkey : key b = key a := Std.Antisymm.antisymm _ _ hba hab
          have hhead := hfilter (key a)
          rw [List.filter_cons, if_pos (decide_eq_true rfl), List.filter_cons,
            if_pos (decide_eq_true hkey)] at hhead
          obtain rfl := (List.cons.inj hhead).1
          refine congrArg (a :: ·) (ih hl.of_cons hl'.of_cons fun k => ?_)
          have htail := hfilter k
          rw [List.filter_cons, List.filter_cons] at htail
          split at htail
          · exact (List.cons.inj htail).2
          · exact htail

theorem sortBy_eq_sortBy_iff [DecidableEq κ] :
    sortBy r key l = sortBy r key l' ↔
      ∀ k, l.filter (fun a => key a = k) = l'.filter fun a => key a = k := by
  constructor
  · intro h k
    rw [← filter_sortBy (r := r), h, filter_sortBy]
  · intro h
    refine eq_of_filter (sortedBy_sortBy l) (sortedBy_sortBy l') fun k => ?_
    rw [filter_sortBy, filter_sortBy, h]

end MindscapeLocalCore.Library.Sorting

/-!
A scan that keeps the best item so far: it ends with the first of those with the greatest score.
-/

namespace MindscapeLocalCore.Library.FirstMaximum

variable {α β : Type} {score : α → ℕ} {items : List α} {best : Option α} {m : α}

def keepBest (score : α → ℕ) (best : Option α) (item : α) : Option α :=
  match best with
  | none => some item
  | some old => if score old < score item then some item else some old

def IsFirstMax (score : α → ℕ) (items : List α) (m : α) : Prop :=
  ∃ before after, items = before ++ m :: after ∧ (∀ item ∈ before, score item < score m) ∧
    ∀ item ∈ after, score item ≤ score m

theorem IsFirstMax.mem (h : IsFirstMax score items m) : m ∈ items := by
  obtain ⟨before, after, rfl, -, -⟩ := h
  exact List.mem_append_right before List.mem_cons_self

theorem IsFirstMax.le (h : IsFirstMax score items m) : ∀ item ∈ items, score item ≤ score m := by
  obtain ⟨before, after, rfl, hbefore, hafter⟩ := h
  refine List.forall_mem_append.mpr ⟨fun item hmem => Nat.le_of_lt (hbefore item hmem), ?_⟩
  exact List.forall_mem_cons.mpr ⟨Nat.le_refl _, hafter⟩

theorem foldl_keepBest_some {old : α} (items : List α) :
    ∃ m, items.foldl (keepBest score) (some old) = some m ∧ IsFirstMax score (old :: items) m := by
  induction items generalizing old with
  | nil => exact ⟨old, rfl, [], [], rfl, by simp, by simp⟩
  | cons item items ih =>
      rw [List.foldl_cons, keepBest]
      split
      · rename_i hless
        obtain ⟨m, hm, hmax⟩ := @ih item
        refine ⟨m, hm, ?_⟩
        obtain ⟨before, after, heq, hbefore, hafter⟩ := hmax
        refine ⟨old :: before, after, congrArg (old :: ·) heq, ?_, hafter⟩
        refine List.forall_mem_cons.mpr ⟨?_, hbefore⟩
        have hle : score item ≤ score m :=
          IsFirstMax.le ⟨before, after, heq, hbefore, hafter⟩ item List.mem_cons_self
        omega
      · rename_i hnot
        obtain ⟨m, hm, before, after, heq, hbefore, hafter⟩ := @ih old
        refine ⟨m, hm, ?_⟩
        cases before with
        | nil =>
            obtain ⟨rfl, rfl⟩ := List.cons.inj heq
            refine ⟨[], item :: items, rfl, by simp, ?_⟩
            exact List.forall_mem_cons.mpr ⟨by omega, hafter⟩
        | cons first before =>
            obtain ⟨rfl, rfl⟩ := List.cons.inj heq
            obtain ⟨hfirst, hrest⟩ := List.forall_mem_cons.mp hbefore
            refine ⟨old :: item :: before, after, rfl, ?_, hafter⟩
            refine List.forall_mem_cons.mpr ⟨hfirst, List.forall_mem_cons.mpr ⟨by omega, hrest⟩⟩

theorem foldl_keepBest_none :
    items.foldl (keepBest score) none = none ∧ items = [] ∨
      ∃ m, items.foldl (keepBest score) none = some m ∧ IsFirstMax score items m := by
  cases items with
  | nil => exact .inl ⟨rfl, rfl⟩
  | cons item items => exact .inr (foldl_keepBest_some items)

theorem isFirstMax_filterMap {f : β → Option α} {all : List β}
    (h : IsFirstMax score (all.filterMap f) m) :
    ∃ before item after, all = before ++ item :: after ∧ f item = some m ∧
      (∀ other ∈ before, ∀ a, f other = some a → score a < score m) ∧
        ∀ other ∈ all, ∀ a, f other = some a → score a ≤ score m := by
  have hle := h.le
  obtain ⟨before, after, heq, hbefore, -⟩ := h
  obtain ⟨left, right, rfl, hleft, hright⟩ := List.filterMap_eq_append_iff.mp heq
  obtain ⟨skipped, item, rest, rfl, hskipped, hitem, -⟩ := List.filterMap_eq_cons_iff.mp hright
  refine ⟨left ++ skipped, item, rest, ?_, hitem, ?_, ?_⟩
  · rw [List.append_assoc]
  · intro other hmem a ha
    rcases List.mem_append.mp hmem with hmem | hmem
    · exact hbefore a (hleft ▸ List.mem_filterMap.mpr ⟨other, hmem, ha⟩)
    · rw [hskipped other hmem] at ha
      cases ha
  · intro other hmem a ha
    exact hle a (List.mem_filterMap.mpr ⟨other, hmem, ha⟩)

end MindscapeLocalCore.Library.FirstMaximum
