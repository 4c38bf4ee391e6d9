import Mathlib.Data.Int.Notation
import Mathlib.Data.List.Basic

/-!
Whole numbers as text, and texts that end with a number after a separator.
-/

namespace MindscapeLocalCore.Library.NumberText

theorem isDigit_of_mem_natRepr {n : ℕ} {c : Char} (h : c ∈ n.repr.toList) : c.isDigit := by
  rw [Nat.repr, String.toList_ofList] at h
  exact Nat.isDigit_of_mem_toDigits (by decide) (by decide) h

theorem natRepr_inj {m n : ℕ} (h : m.repr = n.repr) : m = n := by
  rw [Nat.repr, Nat.repr, ← String.toList_inj, String.toList_ofList, String.toList_ofList] at h
  have hvalue := congrArg (fun digits => Nat.ofDigitChars 10 digits 0) h
  simpa only [Nat.ofDigitChars_ten_toDigits] using hvalue

theorem toList_repr_negSucc (n : ℕ) : (Int.negSucc n).repr.toList = '-' :: (n + 1).repr.toList := by
  rw [Int.repr, String.toList_append]
  rfl

theorem isDigit_of_mem_intRepr {n : ℤ} {c : Char} (h : c ∈ n.repr.toList) :
    c = '-' ∨ c.isDigit := by
  cases n with
  | ofNat n => exact .inr (isDigit_of_mem_natRepr h)
  | negSucc n =>
      rw [toList_repr_negSucc] at h
      exact (List.mem_cons.mp h).imp_right isDigit_of_mem_natRepr

theorem intRepr_inj {m n : ℤ} (h : m.repr = n.repr) : m = n := by
  have hlist := congrArg String.toList h
  cases m with
  | ofNat m =>
      cases n with
      | ofNat n => exact congrArg Int.ofNat (natRepr_inj h)
      | negSucc n =>
          have hsign : '-' ∈ m.repr.toList := by
            rw [show m.repr.toList = _ from hlist, toList_repr_negSucc]
            exact List.mem_cons_self
          exact absurd (isDigit_of_mem_natRepr hsign) (by decide)
  | negSucc m =>
      cases n with
      | ofNat n =>
          have hsign : '-' ∈ n.repr.toList := by
            rw [show n.repr.toList = _ from hlist.symm, toList_repr_negSucc]
            exact List.mem_cons_self
          exact absurd (isDigit_of_mem_natRepr hsign) (by decide)
      | negSucc n =>
          rw [toList_repr_negSucc, toList_repr_negSucc] at hlist
          have hdigits := natRepr_inj (String.toList_inj.mp (List.cons.inj hlist).2)
          exact congrArg Int.negSucc (Nat.succ.inj hdigits)

variable {α : Type} {sep : α} {a a' b b' : List α}

theorem append_cons_inj (hb : sep ∉ b) (hb' : sep ∉ b') (h : a ++ sep :: b = a' ++ sep :: b') :
    a = a' ∧ b = b' := by
  rcases List.append_eq_append_iff.mp h with ⟨c, rfl, hc⟩ | ⟨c, rfl, hc⟩
  · cases c with
    | nil => exact ⟨(List.append_nil a).symm, (List.cons.inj hc).2⟩
    | cons x c =>
        obtain ⟨-, rfl⟩ := List.cons.inj hc
        exact absurd (List.mem_append_right c List.mem_cons_self) hb
  · cases c with
    | nil => exact ⟨List.append_nil a', ((List.cons.inj hc).2).symm⟩
    | cons x c =>
        obtain ⟨-, rfl⟩ := List.cons.inj hc
        exact absurd (List.mem_append_right c List.mem_cons_self) hb'

end MindscapeLocalCore.Library.NumberText
