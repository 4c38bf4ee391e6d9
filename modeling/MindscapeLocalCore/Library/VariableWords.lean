import Mathlib.Data.List.Basic
import Mathlib.Logic.Nontrivial.Basic

/-!
Words with a variable. Two words that agree for every value of the variable are the same.
-/

namespace MindscapeLocalCore.Library.VariableWords

variable {α β : Type}

/-- What stands for one place of a word; `none` is the variable. -/
def place (value : List α) : Option α → List α
  | none => value
  | some c => [c]

def fill (value : List α) (word : List (Option α)) : List α := word.flatMap (place value)

@[simp] theorem fill_nil (value : List α) : fill value [] = [] := rfl

@[simp] theorem fill_cons (value : List α) (x : Option α) (word : List (Option α)) :
    fill value (x :: word) = place value x ++ fill value word := List.flatMap_cons

theorem fill_append (value : List α) (word word' : List (Option α)) :
    fill value (word ++ word') = fill value word ++ fill value word' := List.flatMap_append

theorem fill_map_some (value text : List α) : fill value (text.map some) = text := by
  induction text with
  | nil => rfl
  | cons c text ih => exact congrArg (List.cons c) ih

theorem eq_of_fill_eq [Nontrivial α] {word word' : List (Option α)}
    (h : ∀ value, fill value word = fill value word') : word = word' := by
  have hapart : ∀ c : α, ∃ d, d ≠ c := fun c => exists_ne c
  induction word generalizing word' with
  | nil =>
      cases word' with
      | nil => rfl
      | cons x word' =>
          obtain ⟨c, -⟩ := exists_pair_ne α
          cases x with
          | none => cases h [c]
          | some d => cases h [c]
  | cons x word ih =>
      cases word' with
      | nil =>
          obtain ⟨c, -⟩ := exists_pair_ne α
          cases x with
          | none => cases h [c]
          | some d => cases h [c]
      | cons y word' =>
          cases x with
          | none =>
              cases y with
              | none =>
                  rw [ih fun value => List.append_cancel_left (h value)]
              | some d =>
                  obtain ⟨c, hne⟩ := hapart d
                  exact absurd (List.cons.inj (h [c])).1 hne
          | some c =>
              cases y with
              | none =>
                  obtain ⟨d, hne⟩ := hapart c
                  exact absurd (List.cons.inj (h [d])).1.symm hne
              | some d =>
                  obtain rfl := (List.cons.inj (h [])).1
                  rw [ih fun value => (List.cons.inj (h value)).2]

theorem exists_piece {f : β → List (Option α)} (hf : ∀ piece, f piece = [none] ∨ none ∉ f piece)
    {pieces : List β} {before after : List (Option α)}
    (h : pieces.flatMap f = before ++ none :: after) :
    ∃ earlier piece later, pieces = earlier ++ piece :: later ∧ f piece = [none] ∧
      earlier.flatMap f = before := by
  induction pieces generalizing before with
  | nil => exact absurd h.symm (List.append_ne_nil_of_right_ne_nil _ (List.cons_ne_nil _ _))
  | cons first pieces ih =>
      rw [List.flatMap_cons] at h
      rcases List.append_eq_append_iff.mp h with ⟨rest, rfl, hrest⟩ | ⟨rest, hfirst, hrest⟩
      · obtain ⟨earlier, piece, later, rfl, hpiece, rfl⟩ := ih hrest
        exact ⟨first :: earlier, piece, later, rfl, hpiece, List.flatMap_cons⟩
      · cases rest with
        | nil =>
            rw [List.append_nil] at hfirst
            have hpieces : pieces.flatMap f = [] ++ none :: after := hrest.symm
            obtain ⟨earlier, piece, later, rfl, hpiece, hnil⟩ := ih hpieces
            refine ⟨first :: earlier, piece, later, rfl, hpiece, ?_⟩
            rw [List.flatMap_cons, hnil, List.append_nil, hfirst]
        | cons x rest =>
            obtain ⟨rfl, -⟩ := List.cons.inj hrest
            have hmem : none ∈ f first := by
              rw [hfirst]
              exact List.mem_append_right before List.mem_cons_self
            have hpiece := (hf first).resolve_right (not_not_intro hmem)
            rw [hpiece] at hfirst
            cases before with
            | nil => exact ⟨[], first, pieces, rfl, hpiece, rfl⟩
            | cons y before =>
                have htail := (List.cons.inj hfirst).2
                exact absurd htail.symm
                  (List.append_ne_nil_of_right_ne_nil _ (List.cons_ne_nil _ _))

end MindscapeLocalCore.Library.VariableWords
