import Mathlib.Data.List.Induction
import Mathlib.Data.List.Nodup
import Mathlib.Tactic.Tauto

/-!
Dictionaries of Python, as their items in the order in which the keys were first set.
-/

namespace MindscapeLocalCore.Library.ItemDict

variable {κ α : Type} [DecidableEq κ]

/-- `d.get(k)`. -/
def getItem (k : κ) (items : List (κ × α)) : Option α := items.lookup k

/-- `d[k] = v`. -/
def setItem (k : κ) (v : α) (items : List (κ × α)) : List (κ × α) :=
  if k ∈ items.map Prod.fst then items.map fun item => if item.1 = k then (k, v) else item
  else items ++ [(k, v)]

/-- `d.update(new)`. -/
def updateItems (new items : List (κ × α)) : List (κ × α) :=
  new.foldl (fun items item => setItem item.1 item.2 items) items

variable {k k' : κ} {v v' : α} {items new : List (κ × α)} {item : κ × α}

theorem mem_of_getItem (h : getItem k items = some v) : (k, v) ∈ items := by
  induction items with
  | nil => cases h
  | cons first rest ih =>
      obtain ⟨key, value⟩ := first
      by_cases hkey : k = key
      · subst hkey
        obtain rfl : value = v := by simpa [getItem] using h
        exact List.mem_cons_self
      · have hne : (k == key) = false := by simpa using hkey
        rw [getItem, List.lookup_cons, hne] at h
        exact List.mem_cons_of_mem _ (ih h)

theorem mem_setItem (h : item ∈ setItem k v items) :
    item = (k, v) ∨ item ∈ items ∧ item.1 ≠ k := by
  rw [setItem] at h
  split at h
  · obtain ⟨old, hold, rfl⟩ := List.mem_map.mp h
    by_cases hkey : old.1 = k
    · exact .inl (if_pos hkey)
    · rw [if_neg hkey]
      exact .inr ⟨hold, hkey⟩
  · rename_i habsent
    rcases List.mem_append.mp h with hold | hnew
    · refine .inr ⟨hold, ?_⟩
      rintro rfl
      exact habsent (List.mem_map_of_mem hold)
    · exact .inl (List.mem_singleton.mp hnew)

theorem getItem_eq_none_iff : getItem k items = none ↔ k ∉ items.map Prod.fst := by
  rw [getItem, List.lookup_eq_none_iff]
  simp only [List.mem_map, not_exists, not_and, bne_iff_ne]
  exact ⟨fun h item hmem hkey => h item hmem hkey.symm, fun h item hmem hkey => h item hmem hkey.symm⟩

theorem getItem_cons {first : κ × α} :
    getItem k (first :: items) = if k = first.1 then some first.2 else getItem k items := by
  rw [getItem, List.lookup_cons]
  by_cases h : k = first.1
  · rw [if_pos h, h, beq_self_eq_true]
  · rw [if_neg h, beq_false_of_ne h]
    rfl

theorem getItem_setItem :
    getItem k' (setItem k v items) = if k' = k then some v else getItem k' items := by
  rw [setItem]
  split
  · rename_i hmem
    induction items with
    | nil => cases hmem
    | cons first rest ih =>
        rw [getItem, getItem, List.map_cons, List.lookup_cons, List.lookup_cons]
        by_cases hfirst : first.1 = k
        · rw [if_pos hfirst, hfirst]
          by_cases hk : k' = k
          · rw [if_pos hk, hk, beq_self_eq_true]
          · rw [if_neg hk, beq_false_of_ne hk]
            by_cases hrest : k ∈ rest.map Prod.fst
            · exact (ih hrest).trans (if_neg hk)
            · rw [List.map_congr_left (g := id), List.map_id]
              intro item hitem
              refine if_neg ?_
              rintro rfl
              exact hrest (List.mem_map_of_mem hitem)
        · rw [if_neg hfirst]
          have hrest : k ∈ rest.map Prod.fst :=
            (List.mem_cons.mp hmem).resolve_left (Ne.symm hfirst)
          by_cases hk : k' = first.1
          · rw [hk, beq_self_eq_true, if_neg hfirst]
          · rw [beq_false_of_ne hk]
            exact ih hrest
  · rename_i habsent
    rw [getItem, List.lookup_append]
    by_cases hk : k' = k
    · rw [if_pos hk, hk, show items.lookup k = none from getItem_eq_none_iff.mpr habsent,
        Option.none_or, List.lookup_cons, beq_self_eq_true]
    · rw [if_neg hk, List.lookup_cons, beq_false_of_ne hk]
      exact Option.or_none

theorem getItem_of_mem (h : (items.map Prod.fst).Nodup) (hmem : (k, v) ∈ items) :
    getItem k items = some v := by
  induction items with
  | nil => cases hmem
  | cons first rest ih =>
      obtain ⟨hfirst, hrest⟩ := List.nodup_cons.mp h
      rw [getItem, List.lookup_cons]
      rcases List.mem_cons.mp hmem with rfl | hmem
      · rw [beq_self_eq_true]
      · have hne : k ≠ first.1 := by
          rintro rfl
          exact hfirst (List.mem_map.mpr ⟨_, hmem, rfl⟩)
        rw [beq_false_of_ne hne]
        exact ih hrest hmem

theorem mem_updateItems (h : item ∈ updateItems new items) :
    item ∈ new ∨ item ∈ items ∧ item.1 ∉ new.map Prod.fst := by
  induction new generalizing items with
  | nil => exact .inr ⟨h, List.not_mem_nil⟩
  | cons first rest ih =>
      rcases ih h with hrest | ⟨hset, hnot⟩
      · exact .inl (List.mem_cons_of_mem _ hrest)
      · rcases mem_setItem hset with rfl | ⟨hold, hkey⟩
        · exact .inl List.mem_cons_self
        · refine .inr ⟨hold, ?_⟩
          rw [List.map_cons, List.mem_cons]
          rintro (hsame | hmem)
          · exact hkey hsame
          · exact hnot hmem

theorem map_fst_setItem_of_mem (h : k ∈ items.map Prod.fst) :
    (setItem k v items).map Prod.fst = items.map Prod.fst := by
  rw [setItem, if_pos h, List.map_map]
  refine List.map_congr_left fun item _ => ?_
  show (if item.1 = k then (k, v) else item).1 = item.1
  split
  · rename_i hkey
    exact hkey.symm
  · rfl

theorem setItem_of_not_mem (h : k ∉ items.map Prod.fst) : setItem k v items = items ++ [(k, v)] :=
  if_neg h

theorem mem_map_fst_setItem :
    k' ∈ (setItem k v items).map Prod.fst ↔ k' = k ∨ k' ∈ items.map Prod.fst := by
  by_cases h : k ∈ items.map Prod.fst
  · rw [map_fst_setItem_of_mem h]
    refine ⟨.inr, ?_⟩
    rintro (rfl | hmem)
    · exact h
    · exact hmem
  · rw [setItem_of_not_mem h, List.map_append, List.mem_append, List.map_singleton,
      List.mem_singleton, or_comm]

theorem nodup_setItem (h : (items.map Prod.fst).Nodup) :
    ((setItem k v items).map Prod.fst).Nodup := by
  by_cases hmem : k ∈ items.map Prod.fst
  · rw [map_fst_setItem_of_mem hmem]
    exact h
  · rw [setItem_of_not_mem hmem, List.map_append]
    exact List.nodup_append'.mpr ⟨h, List.nodup_singleton k, by simpa using hmem⟩

theorem nodup_updateItems (h : (items.map Prod.fst).Nodup) :
    ((updateItems new items).map Prod.fst).Nodup := by
  induction new generalizing items with
  | nil => exact h
  | cons first rest ih => exact ih (nodup_setItem h)

theorem mem_map_fst_updateItems :
    k ∈ (updateItems new items).map Prod.fst ↔
      k ∈ new.map Prod.fst ∨ k ∈ items.map Prod.fst := by
  induction new generalizing items with
  | nil => exact (or_iff_right List.not_mem_nil).symm
  | cons first rest ih =>
      refine ih.trans ?_
      rw [mem_map_fst_setItem, List.map_cons, List.mem_cons]
      tauto

theorem updateItems_append_singleton :
    updateItems (new ++ [item]) items = setItem item.1 item.2 (updateItems new items) :=
  List.foldl_append ..

theorem updateItems_nil_of_nodup (h : (new.map Prod.fst).Nodup) : updateItems new [] = new := by
  induction new using List.reverseRecOn with
  | nil => rfl
  | append_singleton new item ih =>
      rw [List.map_append, List.map_singleton] at h
      obtain ⟨hnew, -, hdisjoint⟩ := List.nodup_append'.mp h
      rw [updateItems_append_singleton, ih hnew, setItem_of_not_mem]
      exact fun hmem => hdisjoint hmem (List.mem_singleton_self item.1)

end MindscapeLocalCore.Library.ItemDict

/-!
Dictionaries of Python that carry the distinctness of their keys: what is read after a
write or a removal, and how many of the values pass a test.
-/

namespace MindscapeLocalCore.Library.OrderedDict

open ItemDict

/-- Items in the order in which the keys were first set. -/
structure PyDict (κ α : Type) where
  items : List (κ × α)
  nodup : (items.map Prod.fst).Nodup

variable {κ α : Type}

def PyDict.empty : PyDict κ α := ⟨[], List.nodup_nil⟩

/-- `list(d.values())`. -/
def PyDict.values (d : PyDict κ α) : List α := d.items.map Prod.snd

/-- How many of the values pass a test. -/
def PyDict.count (p : α → Bool) (d : PyDict κ α) : ℕ := d.values.countP p

def PyDict.retain (keep : κ → α → Bool) (d : PyDict κ α) : PyDict κ α :=
  ⟨d.items.filter fun item => keep item.1 item.2,
    d.nodup.sublist (List.filter_sublist.map Prod.fst)⟩

variable [DecidableEq κ]

/-- `d.get(k)`. -/
def PyDict.get (k : κ) (d : PyDict κ α) : Option α := getItem k d.items

/-- `d[k] = v`. -/
def PyDict.set (k : κ) (v : α) (d : PyDict κ α) : PyDict κ α :=
  ⟨setItem k v d.items, nodup_setItem d.nodup⟩

/-- `d.pop(k, None)`. -/
def PyDict.pop (k : κ) (d : PyDict κ α) : PyDict κ α :=
  ⟨d.items.filter fun item => decide (item.1 ≠ k),
    d.nodup.sublist (List.filter_sublist.map Prod.fst)⟩

variable {d : PyDict κ α} {k k' : κ} {v old : α} {p : α → Bool}

@[simp] theorem get_empty : (PyDict.empty : PyDict κ α).get k = none := rfl

theorem mem_items_iff : (k, v) ∈ d.items ↔ d.get k = some v :=
  ⟨getItem_of_mem d.nodup, mem_of_getItem⟩

theorem get_set : (d.set k v).get k' = if k' = k then some v else d.get k' := getItem_setItem

@[simp] theorem get_set_self : (d.set k v).get k = some v := by
  rw [get_set, if_pos rfl]

theorem get_set_of_ne (h : k' ≠ k) : (d.set k v).get k' = d.get k' := by
  rw [get_set, if_neg h]

theorem get_pop : (d.pop k).get k' = if k' = k then none else d.get k' := by
  apply Option.ext
  intro v
  rw [← mem_items_iff, PyDict.pop, List.mem_filter, mem_items_iff, decide_eq_true_eq]
  split
  · rename_i hkey
    exact iff_of_false (fun h => h.2 hkey) (Option.some_ne_none v).symm
  · rename_i hkey
    exact and_iff_left hkey

@[simp] theorem get_pop_self : (d.pop k).get k = none := by
  rw [get_pop, if_pos rfl]

theorem get_pop_eq_some : (d.pop k).get k' = some v ↔ k' ≠ k ∧ d.get k' = some v := by
  rw [get_pop]
  split
  · rename_i hkey
    exact iff_of_false (Option.some_ne_none v).symm fun h => h.1 hkey
  · rename_i hkey
    exact (and_iff_right hkey).symm

theorem get_retain {keep : κ → α → Bool} :
    (d.retain keep).get k = some v ↔ d.get k = some v ∧ keep k v = true := by
  rw [← mem_items_iff, ← mem_items_iff]
  exact List.mem_filter

theorem get_set_isSome : ((d.set k v).get k').isSome ↔ k' = k ∨ (d.get k').isSome := by
  rw [get_set]
  split
  · rename_i hkey
    exact iff_of_true rfl (.inl hkey)
  · rename_i hkey
    exact (or_iff_right hkey).symm

theorem get_pop_isSome : ((d.pop k).get k').isSome ↔ k' ≠ k ∧ (d.get k').isSome := by
  rw [get_pop]
  split
  · rename_i hkey
    exact iff_of_false Bool.false_ne_true fun h => h.1 hkey
  · rename_i hkey
    exact (and_iff_right hkey).symm

theorem mem_values_iff : v ∈ d.values ↔ ∃ k, d.get k = some v := by
  rw [PyDict.values, List.mem_map]
  constructor
  · rintro ⟨⟨k, v⟩, hmem, rfl⟩
    exact ⟨k, mem_items_iff.mp hmem⟩
  · rintro ⟨k, hget⟩
    exact ⟨(k, v), mem_items_iff.mpr hget, rfl⟩

theorem not_mem_keys_iff : k ∉ d.items.map Prod.fst ↔ d.get k = none :=
  getItem_eq_none_iff.symm

theorem values_pop_sublist : (d.pop k).values.Sublist d.values :=
  List.filter_sublist.map Prod.snd

theorem count_pop_le : (d.pop k).count p ≤ d.count p := values_pop_sublist.countP_le

theorem count_set_of_none (h : d.get k = none) :
    (d.set k v).count p = d.count p + if p v = true then 1 else 0 := by
  show ((setItem k v d.items).map Prod.snd).countP p = _
  rw [setItem_of_not_mem (not_mem_keys_iff.mpr h), List.map_append, List.countP_append,
    List.map_singleton, List.countP_singleton]
  rfl

theorem count_set_of_some (h : d.get k = some old) (hp : p v = p old) :
    (d.set k v).count p = d.count p := by
  have hmem : k ∈ d.items.map Prod.fst := by
    by_contra hnot
    rw [not_mem_keys_iff.mp hnot] at h
    cases h
  show ((setItem k v d.items).map Prod.snd).countP p = (d.items.map Prod.snd).countP p
  rw [setItem, if_pos hmem, List.map_map, List.countP_map, List.countP_map]
  refine List.countP_congr fun item hitem => ?_
  show p (if item.1 = k then (k, v) else item).2 = true ↔ p item.2 = true
  split
  · rename_i hkey
    have hold : item.2 = old := by
      rw [← hkey, mem_items_iff.mp (show (item.1, item.2) ∈ d.items from hitem)] at h
      exact Option.some.inj h
    rw [hp, hold]
  · rfl

theorem count_le_one (h : ∀ k k' v v', d.get k = some v → d.get k' = some v' → p v = true →
    p v' = true → k = k') : d.count p ≤ 1 := by
  rw [PyDict.count, PyDict.values, List.countP_map, List.countP_eq_length_filter]
  have hsame : ∀ item ∈ d.items.filter (p ∘ Prod.snd), ∀ other ∈ d.items.filter (p ∘ Prod.snd),
      item.1 = other.1 := by
    intro item hitem other hother
    obtain ⟨hmem, hpass⟩ := List.mem_filter.mp hitem
    obtain ⟨hmem', hpass'⟩ := List.mem_filter.mp hother
    exact h _ _ _ _ (mem_items_iff.mp hmem) (mem_items_iff.mp hmem') hpass hpass'
  have hkeys : ((d.items.filter (p ∘ Prod.snd)).map Prod.fst).Nodup :=
    d.nodup.sublist (List.filter_sublist.map Prod.fst)
  match hlist : d.items.filter (p ∘ Prod.snd) with
  | [] => exact Nat.zero_le 1
  | [_] => exact Nat.le_refl 1
  | item :: other :: rest =>
      rw [hlist] at hkeys hsame
      refine absurd (hsame item List.mem_cons_self other ?_) ?_
      · exact List.mem_cons_of_mem _ List.mem_cons_self
      · intro heq
        exact (List.nodup_cons.mp hkeys).1 (heq ▸ List.mem_cons_self)

end MindscapeLocalCore.Library.OrderedDict
