import Mathlib.Data.List.Forall2
import MindscapeLocalCore.Library.UniqueInsert

/-!
Inserting the rows of many items one after another: each row is built from its item, passes the
checks of the table as it is then, and clashes with no row that is there.
-/

namespace MindscapeLocalCore.Library.CheckedInserts

open Guarded

variable {α β ε : Type} {clash : α → α → Prop} [DecidableRel clash] {check : List α → α → Prop}
  [∀ rows, DecidablePred (check rows)] {rows : List α} {item : β} {items : List β}

omit [∀ rows, DecidablePred (check rows)] in
omit [∀ rows, DecidablePred (check rows)] in
theorem mapM_eq_ok {f : β → Except ε α} {results : List α} :
    items.mapM f = .ok results ↔ List.Forall₂ (fun item row => f item = .ok row) items results := by
  induction items generalizing results with
  | nil =>
      rw [List.mapM_nil, pure_eq_ok, Except.ok.injEq, List.forall₂_nil_left_iff]
      exact eq_comm
  | cons item items ih =>
      rw [List.mapM_cons, bind_eq_ok, List.forall₂_cons_left_iff]
      simp only [bind_eq_ok, pure_eq_ok, Except.ok.injEq, ih]
      constructor
      · rintro ⟨row, hrow, rest, hrest, rfl⟩
        exact ⟨row, rest, hrow, hrest, rfl⟩
      · rintro ⟨row, rest, hrow, hrest, rfl⟩
        exact ⟨row, hrow, rest, hrest, rfl⟩

end MindscapeLocalCore.Library.CheckedInserts
