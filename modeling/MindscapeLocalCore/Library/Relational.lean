import Mathlib.Data.List.Basic

/-!
Queries over tables as lists of rows, and tables without the rows that a query leaves unread.
-/

namespace MindscapeLocalCore.Library.Relational

variable {α β : Type}

def leftJoin (matching : α → Prop) [DecidablePred matching] (rows : List α) : List (Option α) :=
  match rows.filter fun row => matching row with
  | [] => [none]
  | first :: rest => (first :: rest).map some

variable {keep matching : α → Prop} [DecidablePred keep] [DecidablePred matching]
variable {rows : List α}

theorem length_filter_le_one {κ : Type} {key : α → κ} {k : κ} (hkeys : (rows.map key).Nodup)
    (h : ∀ row, matching row → key row = k) :
    (rows.filter fun row => matching row).length ≤ 1 := by
  have hnodup : ((rows.filter fun row => matching row).map key).Nodup :=
    hkeys.sublist (List.filter_sublist.map key)
  have hall : ∀ k' ∈ (rows.filter fun row => matching row).map key, k' = k := by
    intro k' hmem
    obtain ⟨row, hrow, rfl⟩ := List.mem_map.mp hmem
    exact h row (of_decide_eq_true (List.mem_filter.mp hrow).2)
  have hsubset : (rows.filter fun row => matching row).map key ⊆ [k] :=
    fun k' hmem => List.mem_singleton.mpr (hall k' hmem)
  rw [← List.length_map key]
  exact hnodup.length_le_of_subset hsubset

theorem length_flatMap_le_one {f : α → List β} (hrows : rows.length ≤ 1)
    (h : ∀ row ∈ rows, (f row).length ≤ 1) : (rows.flatMap f).length ≤ 1 := by
  cases rows with
  | nil => exact Nat.zero_le 1
  | cons row rows =>
      obtain rfl : rows = [] := by
        rw [List.length_cons] at hrows
        exact List.length_eq_zero_iff.mp (by omega)
      rw [List.flatMap_singleton]
      exact h row List.mem_cons_self

theorem flatMap_filter {f : α → List β} (h : ∀ row ∈ rows, f row ≠ [] → keep row) :
    (rows.filter fun row => keep row).flatMap f = rows.flatMap f := by
  induction rows with
  | nil => rfl
  | cons row rows ih =>
      obtain ⟨hrow, hrest⟩ := List.forall_mem_cons.mp h
      rw [List.filter_cons, List.flatMap_cons, ← ih hrest]
      split
      · rw [List.flatMap_cons]
      · rename_i hkeep
        have hnil : f row = [] := by
          by_contra hf
          exact hkeep (decide_eq_true (hrow hf))
        rw [hnil, List.nil_append]

theorem filter_filter_of_imp (h : ∀ row ∈ rows, matching row → keep row) :
    (rows.filter fun row => keep row).filter (fun row => matching row) =
      rows.filter fun row => matching row := by
  rw [List.filter_filter]
  refine List.filter_congr fun row hrow => ?_
  rw [← Bool.decide_and, decide_eq_decide]
  exact and_iff_left_of_imp (h row hrow)

theorem leftJoin_filter (h : ∀ row ∈ rows, matching row → keep row) :
    leftJoin matching (rows.filter fun row => keep row) = leftJoin matching rows := by
  rw [leftJoin, filter_filter_of_imp h]
  rfl

omit [DecidablePred matching] in
theorem exists_mem_filter_iff (h : ∀ row ∈ rows, matching row → keep row) :
    (∃ row ∈ rows.filter fun row => keep row, matching row) ↔ ∃ row ∈ rows, matching row := by
  constructor
  · rintro ⟨row, hrow, hmatching⟩
    exact ⟨row, List.mem_of_mem_filter hrow, hmatching⟩
  · rintro ⟨row, hrow, hmatching⟩
    exact ⟨row, List.mem_filter.mpr ⟨hrow, decide_eq_true (h row hrow hmatching)⟩, hmatching⟩

theorem mem_leftJoin {row : Option α} :
    row ∈ leftJoin matching rows ↔
      (∃ found ∈ rows, matching found ∧ row = some found) ∨
        row = none ∧ ∀ found ∈ rows, ¬ matching found := by
  unfold leftJoin
  split
  · rename_i hnone
    have hall : ∀ found ∈ rows, ¬ matching found := by
      simpa [List.filter_eq_nil_iff] using hnone
    rw [List.mem_singleton]
    constructor
    · intro hrow
      exact .inr ⟨hrow, hall⟩
    · rintro (⟨found, hfound, hmatching, -⟩ | ⟨hrow, -⟩)
      · exact absurd hmatching (hall found hfound)
      · exact hrow
  · rename_i first rest hsome
    rw [← hsome, List.mem_map]
    constructor
    · rintro ⟨found, hfound, rfl⟩
      obtain ⟨hmem, hmatching⟩ := List.mem_filter.mp hfound
      exact .inl ⟨found, hmem, of_decide_eq_true hmatching, rfl⟩
    · rintro (⟨found, hfound, hmatching, rfl⟩ | ⟨-, hall⟩)
      · exact ⟨found, List.mem_filter.mpr ⟨hfound, decide_eq_true hmatching⟩, rfl⟩
      · have hfirst : first ∈ rows.filter fun row => matching row :=
          hsome ▸ List.mem_cons_self
        obtain ⟨hmem, hmatching⟩ := List.mem_filter.mp hfirst
        exact absurd (of_decide_eq_true hmatching) (hall first hmem)

end MindscapeLocalCore.Library.Relational
