/-!
Relational tables as lists of rows, in the order of insertion, read and
updated through a key column.
-/

namespace MindscapeLocalCore.Library.Table

variable {κ α : Type} [DecidableEq κ]

def lookup (key : α → κ) (k : κ) (rows : List α) : Option α :=
  rows.find? fun row => decide (key row = k)

def select (column : α → κ) (k : κ) (rows : List α) : List α :=
  rows.filter fun row => decide (column row = k)

def amend (key : α → κ) (k : κ) (f : α → α) (rows : List α) : List α :=
  rows.map fun row => if key row = k then f row else row

variable {key : α → κ} {k k' : κ} {rows : List α} {row : α}

theorem key_of_lookup (h : lookup key k rows = some row) : key row = k := by
  simpa using List.find?_some h

theorem mem_of_lookup (h : lookup key k rows = some row) : row ∈ rows :=
  List.mem_of_find?_eq_some h

@[simp] theorem lookup_nil : lookup key k [] = none := rfl

theorem lookup_append_singleton :
    lookup key k (rows ++ [row]) =
      (lookup key k rows).or (if key row = k then some row else none) := by
  unfold lookup
  rw [List.find?_append]
  by_cases h : key row = k <;> simp [h]

theorem lookup_append_of_ne (h : key row ≠ k) :
    lookup key k (rows ++ [row]) = lookup key k rows := by
  simp [lookup_append_singleton, h]

theorem lookup_append_self (h : lookup key (key row) rows = none) :
    lookup key (key row) (rows ++ [row]) = some row := by
  simp [lookup_append_singleton, h]

theorem lookup_amend (f : α → α) (hf : ∀ row, key row = k → key (f row) = k) :
    lookup key k' (amend key k f rows) =
      if k' = k then (lookup key k rows).map f else lookup key k' rows := by
  induction rows with
  | nil => simp [amend]
  | cons row rows ih =>
      unfold lookup amend at ih ⊢
      simp only [List.map_cons, List.find?_cons]
      by_cases hk : k' = k
      · subst hk
        by_cases hrow : key row = k'
        · simp [hrow, hf row hrow]
        · simpa [hrow] using ih
      · by_cases hrow : key row = k
        · have hne : ¬ k = k' := fun h => hk h.symm
          simpa [hrow, hf row hrow, hk, hne] using ih
        · by_cases hrow' : key row = k'
          · simp [hrow', hk]
          · simpa [hrow, hrow', hk] using ih

theorem amend_eq_self_iff {f : α → α} :
    amend key k f rows = rows ↔ ∀ row ∈ rows, key row = k → f row = row := by
  induction rows with
  | nil => simp [amend]
  | cons row rows ih =>
      unfold amend at ih ⊢
      rw [List.map_cons, List.cons.injEq, ih, List.forall_mem_cons]
      refine and_congr_left fun _ => ?_
      split
      · rename_i hkey
        exact ⟨fun h _ => h, fun h => h hkey⟩
      · rename_i hkey
        exact iff_of_true rfl fun h => absurd h hkey

theorem map_key_amend (f : α → α) (hf : ∀ row, key row = k → key (f row) = k) :
    (amend key k f rows).map key = rows.map key := by
  rw [amend, List.map_map]
  refine List.map_congr_left fun row _ => ?_
  rw [Function.comp_apply]
  split
  · rename_i hkey
    rw [hf row hkey, hkey]
  · rfl

theorem filter_map_of_kept {keep : α → Prop} [DecidablePred keep] {f : α → α}
    (h : ∀ row ∈ rows, (keep (f row) ↔ keep row) ∧ (keep row → f row = row)) :
    (rows.map f).filter (fun row => decide (keep row)) =
      rows.filter fun row => decide (keep row) := by
  induction rows with
  | nil => rfl
  | cons row rows ih =>
      obtain ⟨⟨hkeep, hsame⟩, hrest⟩ := List.forall_mem_cons.mp h
      rw [List.map_cons, List.filter_cons, List.filter_cons, ih hrest]
      by_cases hrow : keep row
      · rw [hsame hrow]
      · simp only [hkeep, hrow, decide_false]
        rfl

theorem select_append_singleton :
    select key k (rows ++ [row]) =
      select key k rows ++ (if key row = k then [row] else []) := by
  unfold select
  by_cases h : key row = k <;> simp [h]

theorem mem_select : row ∈ select key k rows ↔ row ∈ rows ∧ key row = k := by
  simp [select]

@[simp] theorem select_nil : select key k ([] : List α) = [] := rfl

theorem lookup_eq_some_of_mem (hnodup : (rows.map key).Nodup)
    (hmem : row ∈ rows) : lookup key (key row) rows = some row := by
  induction rows with
  | nil => simp at hmem
  | cons first rest ih =>
      simp only [List.map_cons, List.nodup_cons] at hnodup
      unfold lookup at ih ⊢
      rcases List.mem_cons.mp hmem with rfl | hrest
      · simp
      · have hne : key first ≠ key row := fun h =>
          hnodup.1 (h ▸ List.mem_map_of_mem hrest)
        simpa [hne] using ih hnodup.2 hrest

theorem countP_key_le_one (hnodup : (rows.map key).Nodup) :
    rows.countP (fun row => decide (key row = k)) ≤ 1 := by
  induction rows with
  | nil => exact Nat.zero_le _
  | cons row rows ih =>
      obtain ⟨hnew, hrest⟩ := List.nodup_cons.mp hnodup
      rw [List.countP_cons]
      by_cases hkey : key row = k
      · have hnone : rows.countP (fun row => decide (key row = k)) = 0 := by
          refine List.countP_eq_zero.mpr fun other hmem hother => hnew ?_
          rw [hkey, ← of_decide_eq_true hother]
          exact List.mem_map_of_mem hmem
        simp [hkey, hnone]
      · simpa [hkey] using ih hrest

theorem countP_amend_le_succ {counted : α → Prop} [DecidablePred counted] {f : α → α}
    (hnodup : (rows.map key).Nodup) :
    (amend key k f rows).countP (fun row => decide (counted row)) ≤
      rows.countP (fun row => decide (key row ≠ k ∧ counted row)) + 1 := by
  rw [amend, List.countP_map, List.countP_eq_countP_filter_add _ _ fun row => decide (key row ≠ k)]
  refine Nat.add_le_add ?_ (Nat.le_trans List.countP_le_length ?_)
  · rw [List.countP_filter]
    refine List.countP_mono_left fun row _ hrow => ?_
    obtain ⟨hcounted, hkey⟩ := Bool.and_eq_true_iff.mp hrow
    have hne : key row ≠ k := of_decide_eq_true hkey
    rw [Function.comp_apply, if_neg hne] at hcounted
    exact decide_eq_true ⟨hne, of_decide_eq_true hcounted⟩
  · rw [← List.countP_eq_length_filter]
    refine Nat.le_trans (List.countP_mono_left fun row _ hrow => ?_) (countP_key_le_one (k := k) hnodup)
    simpa using hrow

theorem countP_amend_le {counted : α → Prop} [DecidablePred counted] {f : α → α}
    (h : ∀ row ∈ rows, key row = k → counted (f row) → counted row) :
    (amend key k f rows).countP (fun row => decide (counted row)) ≤
      rows.countP fun row => decide (counted row) := by
  rw [amend, List.countP_map]
  refine List.countP_mono_left fun row hmem hrow => ?_
  rw [Function.comp_apply] at hrow
  have hcounted := of_decide_eq_true hrow
  split at hcounted
  · rename_i hkey
    exact decide_eq_true (h row hmem hkey hcounted)
  · exact decide_eq_true hcounted

theorem lookup_eq_none_iff : lookup key k rows = none ↔ k ∉ rows.map key := by
  simp only [lookup, List.find?_eq_none, decide_eq_true_eq, List.mem_map,
    not_exists, not_and]

theorem find_of_unique {p : α → Bool} (hmem : row ∈ rows) (hrow : p row = true)
    (hunique : ∀ other ∈ rows, p other = true → other = row) : rows.find? p = some row := by
  cases hfound : rows.find? p with
  | none => exact absurd hrow (List.find?_eq_none.mp hfound row hmem)
  | some other =>
      rw [hunique other (List.mem_of_find?_eq_some hfound) (List.find?_some hfound)]

end MindscapeLocalCore.Library.Table
