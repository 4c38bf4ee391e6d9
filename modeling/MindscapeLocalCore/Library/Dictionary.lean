import Mathlib.Algebra.BigOperators.Group.List.Basic
import Mathlib.Algebra.Order.BigOperators.Group.List
import Mathlib.Algebra.Ring.Int.Defs
import Mathlib.Data.List.AList
/-!
Finite maps with one value type: the entries that pass a test, the removal of
several keys, and totals over the values.
-/

namespace MindscapeLocalCore.Library.Dictionary

variable {κ α : Type}

abbrev Dict (κ α : Type) := AList fun _ : κ => α

/-- Keep the entries that pass a test. -/
def retain (p : κ → α → Bool) (s : Dict κ α) : Dict κ α :=
  ⟨s.entries.filter fun e => p e.1 e.2, s.nodupKeys.sublist List.filter_sublist⟩

/-- The sum of a measure of the values. -/
def total (f : α → ℤ) (s : Dict κ α) : ℤ := (s.entries.map fun e => f e.2).sum

@[simp] theorem total_empty (f : α → ℤ) : total f (∅ : Dict κ α) = 0 := rfl

variable {s t : Dict κ α} {k k' : κ} {v w : α}

theorem retain_retain (p q : κ → α → Bool) :
    retain p (retain q s) = retain (fun k v => q k v && p k v) s := by
  apply AList.ext
  simp [retain, Bool.and_comm]

variable [DecidableEq κ]

def eraseAll (keys : List κ) (s : Dict κ α) : Dict κ α :=
  keys.foldl (fun s k => s.erase k) s

theorem mem_entries_iff : ⟨k, v⟩ ∈ s.entries ↔ s.lookup k = some v :=
  AList.mem_lookup_iff.symm

theorem lookup_retain (p : κ → α → Bool) :
    (retain p s).lookup k = (s.lookup k).filter (p k) := by
  ext v
  rw [← mem_entries_iff, Option.filter_eq_some_iff, ← mem_entries_iff]
  simp [retain]

theorem lookup_retain_eq_some {p : κ → α → Bool} :
    (retain p s).lookup k = some v ↔ s.lookup k = some v ∧ p k v = true := by
  rw [lookup_retain, Option.filter_eq_some_iff]

theorem retain_congr {p q : κ → α → Bool}
    (h : ∀ k v, s.lookup k = some v → p k v = q k v) :
    retain p s = retain q s := by
  apply AList.ext
  apply List.filter_congr
  rintro ⟨k, v⟩ hmem
  exact h k v (mem_entries_iff.mp hmem)

theorem retain_of_all {p : κ → α → Bool}
    (h : ∀ k v, s.lookup k = some v → p k v = true) : retain p s = s := by
  apply AList.ext
  apply List.filter_eq_self.mpr
  rintro ⟨k, v⟩ hmem
  exact h k v (mem_entries_iff.mp hmem)

theorem erase_eq_retain :
    s.erase k = retain (fun k' (_ : α) => decide (k' ≠ k)) s := by
  apply AList.ext
  obtain ⟨entries, nodup⟩ := s
  change entries.kerase k = entries.filter fun e => decide (e.1 ≠ k)
  induction entries with
  | nil => rfl
  | cons first rest ih =>
      obtain ⟨hfirst, hrest⟩ := List.nodupKeys_cons.mp nodup
      by_cases hk : k = first.1
      · subst hk
        rw [List.kerase_cons_eq rfl, List.filter_cons_of_neg (by simp)]
        refine (List.filter_eq_self.mpr fun e he => ?_).symm
        exact decide_eq_true fun h => hfirst (h ▸ List.mem_map_of_mem he)
      · rw [List.kerase_cons_ne hk, ih hrest,
          List.filter_cons_of_pos (by simpa using Ne.symm hk)]

theorem eraseAll_eq_retain (keys : List κ) :
    eraseAll keys s = retain (fun k (_ : α) => decide (k ∉ keys)) s := by
  induction keys generalizing s with
  | nil => exact (retain_of_all (by simp)).symm
  | cons first rest ih =>
      change eraseAll rest (s.erase first) = _
      rw [ih, erase_eq_retain, retain_retain]
      apply retain_congr
      intro k v _
      simp

theorem perm_of_lookup {β : Type} (f : α → β)
    (h : ∀ k, (s.lookup k).map f = (t.lookup k).map f) :
    (s.entries.map fun e => f e.2).Perm (t.entries.map fun e => f e.2) := by
  have hperm : (s.entries.map (.map id fun _ => f) : List (Sigma fun _ : κ => β)).Perm
      (t.entries.map (.map id fun _ => f)) := by
    apply List.lookup_ext (s.nodupKeys.map₂ _) (t.nodupKeys.map₂ _)
    intro k v
    rw [List.dlookup_map₂, List.dlookup_map₂]
    exact Iff.of_eq (congrArg (v ∈ ·) (h k))
  have hvalues := hperm.map fun e => e.2
  rw [List.map_map, List.map_map] at hvalues
  exact hvalues

theorem total_congr {f : α → ℤ} (h : ∀ k, (s.lookup k).map f = (t.lookup k).map f) :
    total f s = total f t :=
  (perm_of_lookup f h).sum_eq

theorem total_insert_of_none (f : α → ℤ) (h : s.lookup k = none) :
    total f (s.insert k v) = f v + total f s := by
  have hmem : k ∉ s := AList.lookup_eq_none.mp h
  simp only [total, AList.entries_insert_of_notMem hmem, List.map_cons, List.sum_cons]

theorem total_erase (f : α → ℤ) (h : s.lookup k = some v) :
    f v + total f (s.erase k) = total f s := by
  have hkey : k ∈ s.entries.keys := AList.lookup_isSome.mp (by simp [h])
  obtain ⟨w, before, rest, hbefore, hentries, herase⟩ := List.exists_of_kerase hkey
  have hw : w = v := by
    have hmem : (⟨k, w⟩ : Sigma fun _ : κ => α) ∈ s.entries := by simp [hentries]
    rw [mem_entries_iff, h] at hmem
    exact (Option.some.inj hmem).symm
  change f v + ((s.entries.kerase k).map fun e => f e.2).sum = (s.entries.map _).sum
  rw [herase, hentries, ← hw]
  simp only [List.map_append, List.map_cons, List.sum_append, List.sum_cons]
  omega

theorem total_insert_of_some (f : α → ℤ) (h : s.lookup k = some v) :
    total f (s.insert k w) + f v = f w + total f s := by
  have hinsert : total f (s.insert k w) = f w + total f (s.erase k) := by
    simp only [total, AList.entries_insert, List.map_cons, List.sum_cons]
    rfl
  have herase := total_erase f h
  omega

theorem total_nonneg {f : α → ℤ} (h : ∀ k v, s.lookup k = some v → 0 ≤ f v) :
    0 ≤ total f s := by
  apply List.sum_nonneg
  simp only [List.mem_map]
  rintro _ ⟨⟨k, v⟩, hmem, rfl⟩
  exact h k v (mem_entries_iff.mp hmem)

theorem total_retain_le {f : α → ℤ} {p : κ → α → Bool}
    (h : ∀ k v, s.lookup k = some v → 0 ≤ f v) : total f (retain p s) ≤ total f s := by
  apply List.Sublist.sum_le_sum ((List.filter_sublist).map _)
  simp only [List.mem_map]
  rintro _ ⟨⟨k, v⟩, hmem, rfl⟩
  exact h k v (mem_entries_iff.mp hmem)

end MindscapeLocalCore.Library.Dictionary
