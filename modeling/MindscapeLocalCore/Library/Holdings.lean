import MindscapeLocalCore.Library.Dictionary

/-!
A store that holds at most one entry under each key. A receipt names a key and tells the
entry that its holder put there from the others'. A holder that releases all its receipts
leaves what was there before it came. A table whose entries lapse is such a store.
-/

namespace MindscapeLocalCore.Library.Holdings

open Dictionary

variable {σ ρ κ β : Type}

/-- How a store is seen and released, at one moment: a receipt takes its own entry away. -/
structure Pool (σ ρ κ β : Type) [DecidableEq κ] where
  key : ρ → κ
  own : ρ → β → Bool
  live : σ → κ → Option β
  release : ρ → σ → σ
  live_release : ∀ {receipt s}, live (release receipt s) =
    Function.update (live s) (key receipt) ((live s (key receipt)).filter fun e => !own receipt e)

/-- The receipts stand for new entries, and nothing else has changed. -/
structure Added (key : ρ → κ) (own : ρ → β → Bool) (receipts : List ρ)
    (before after : κ → Option β) : Prop where
  fresh : ∀ receipt ∈ receipts, before (key receipt) = none
  held : ∀ receipt ∈ receipts, ∃ entry, after (key receipt) = some entry ∧ own receipt entry = true
  other : ∀ k, (∀ receipt ∈ receipts, key receipt ≠ k) → after k = before k

section Added

variable {key : ρ → κ} {own : ρ → β → Bool} {receipts : List ρ} {receipt : ρ}
  {before after after' : κ → Option β}

theorem added_nil : Added key own [] before before where
  fresh _ hmem := absurd hmem List.not_mem_nil
  held _ hmem := absurd hmem List.not_mem_nil
  other _ _ := rfl

theorem Added.append [DecidableEq κ] (h : Added key own receipts before after) {entry : β}
    (hfree : after (key receipt) = none) (hown : own receipt entry = true)
    (hafter : after' = Function.update after (key receipt) (some entry)) :
    Added key own (receipts ++ [receipt]) before after' := by
  have hapart : ∀ held ∈ receipts, key receipt ≠ key held := by
    intro held hmem heq
    obtain ⟨old, hold, -⟩ := h.held held hmem
    rw [← heq, hfree] at hold
    cases hold
  subst hafter
  refine ⟨fun held hmem => ?_, fun held hmem => ?_, fun k hk => ?_⟩
  · rcases List.mem_append.mp hmem with hmem | hmem
    · exact h.fresh held hmem
    · obtain rfl := List.mem_singleton.mp hmem
      rw [← h.other _ fun old hold => (hapart old hold).symm, hfree]
  · rcases List.mem_append.mp hmem with hmem | hmem
    · rw [Function.update_of_ne (hapart held hmem).symm]
      exact h.held held hmem
    · obtain rfl := List.mem_singleton.mp hmem
      exact ⟨entry, Function.update_self .., hown⟩
  · have hne : k ≠ key receipt :=
      (hk receipt (List.mem_append_right _ (List.mem_singleton_self _))).symm
    rw [Function.update_of_ne hne]
    exact h.other k fun held hmem => hk held (List.mem_append_left _ hmem)

end Added

namespace Pool

variable [DecidableEq κ] (h : Pool σ ρ κ β) {receipts : List ρ} {receipt : ρ} {s : σ}
  {k : κ} {entry : β} {before : κ → Option β}

def releaseAll (receipts : List ρ) (s : σ) : σ :=
  receipts.foldl (fun s receipt => h.release receipt s) s

theorem live_release_cases : h.live (h.release receipt s) k = none ∨
    h.live (h.release receipt s) k = h.live s k := by
  rw [h.live_release]
  by_cases hk : k = h.key receipt
  · subst hk
    rw [Function.update_self]
    cases h.live s (h.key receipt) with
    | none => exact .inl rfl
    | some entry =>
        cases hown : h.own receipt entry with
        | true => exact .inl (by simp [hown])
        | false => exact .inr (by simp [hown])
  · exact .inr (Function.update_of_ne hk _ _)

theorem live_releaseAll_none (hnone : h.live s k = none) :
    h.live (h.releaseAll receipts s) k = none := by
  induction receipts generalizing s with
  | nil => exact hnone
  | cons first rest ih =>
      rcases h.live_release_cases with hfirst | hfirst
      · exact ih hfirst
      · exact ih (hfirst.trans hnone)

theorem live_releaseAll_other (hother : ∀ receipt ∈ receipts, h.key receipt ≠ k) :
    h.live (h.releaseAll receipts s) k = h.live s k := by
  induction receipts generalizing s with
  | nil => rfl
  | cons first rest ih =>
      have hrest := fun receipt hmem => hother receipt (List.mem_cons_of_mem first hmem)
      refine (ih hrest).trans ?_
      rw [h.live_release, Function.update_of_ne (hother first List.mem_cons_self).symm]

theorem live_releaseAll_held (hmem : receipt ∈ receipts)
    (hlive : h.live s (h.key receipt) = some entry) (hown : h.own receipt entry = true) :
    h.live (h.releaseAll receipts s) (h.key receipt) = none := by
  induction receipts generalizing s with
  | nil => exact absurd hmem List.not_mem_nil
  | cons first rest ih =>
      change h.live (h.releaseAll rest (h.release first s)) (h.key receipt) = none
      rcases List.mem_cons.mp hmem with rfl | hmem
      · refine h.live_releaseAll_none ?_
        rw [h.live_release, Function.update_self, hlive]
        simp [hown]
      · -- The receipt in front may take the same entry away.
        rcases h.live_release_cases with hfirst | hfirst
        · exact h.live_releaseAll_none hfirst
        · exact ih hmem (hfirst.trans hlive)

theorem releaseAll_restores (hadded : Added h.key h.own receipts before (h.live s)) :
    h.live (h.releaseAll receipts s) = before := by
  funext k
  by_cases hk : ∃ receipt ∈ receipts, h.key receipt = k
  · obtain ⟨receipt, hmem, rfl⟩ := hk
    obtain ⟨entry, hentry, hown⟩ := hadded.held receipt hmem
    rw [h.live_releaseAll_held hmem hentry hown, hadded.fresh receipt hmem]
  · have hother : ∀ receipt ∈ receipts, h.key receipt ≠ k :=
      fun receipt hmem heq => hk ⟨receipt, hmem, heq⟩
    rw [h.live_releaseAll_other hother, hadded.other k hother]

end Pool

/-! ### Tables whose entries lapse -/

section Table

variable {ε η τ : Type} (current : τ → ε → Bool) (shows : ε → η)

/-- The entries that have not lapsed. -/
def settled (now : τ) (s : Dict κ ε) : Dict κ ε := retain (fun _ entry => current now entry) s

variable {current shows} {now : τ} {s : Dict κ ε} {entry : ε} {k : κ}

theorem settled_settled : settled current now (settled current now s) = settled current now s := by
  rw [settled, settled, retain_retain]
  simp only [Bool.and_self]

variable [DecidableEq κ]

theorem lookup_settled :
    (settled current now s).lookup k = (s.lookup k).filter fun entry => current now entry :=
  lookup_retain _

variable (current shows)

def shown (now : τ) (s : Dict κ ε) (k : κ) : Option η :=
  ((settled current now s).lookup k).map shows

variable {current shows}

theorem shown_settled :
    shown current shows now (settled current now s) = shown current shows now s := by
  funext k
  rw [shown, shown, settled_settled]

theorem shown_insert (hcurrent : current now entry = true) :
    shown current shows now ((settled current now s).insert k entry) =
      Function.update (shown current shows now s) k (some (shows entry)) := by
  funext k'
  by_cases hk : k' = k
  · subst hk
    rw [Function.update_self, shown, lookup_settled, AList.lookup_insert, Option.filter_some,
      if_pos hcurrent, Option.map_some]
  · rw [Function.update_of_ne hk, shown, lookup_settled, AList.lookup_insert_ne hk,
      ← lookup_settled, settled_settled]
    rfl

theorem shown_erase :
    shown current shows now ((settled current now s).erase k) =
      Function.update (shown current shows now s) k none := by
  funext k'
  by_cases hk : k' = k
  · subst hk
    rw [Function.update_self, shown, lookup_settled, AList.lookup_erase]
    rfl
  · rw [Function.update_of_ne hk, shown, lookup_settled, AList.lookup_erase_ne hk,
      ← lookup_settled, settled_settled]
    rfl

end Table

end MindscapeLocalCore.Library.Holdings
