import Mathlib.Algebra.Order.Field.Power
import Mathlib.Data.Rat.Cast.Order
import Mathlib.Tactic.FieldSimp
import Mathlib.Tactic.Positivity
import MindscapeLocalCore.Library.Json

/-!
The order of JSON numbers is that of their values.
-/

namespace MindscapeLocalCore.Library.JsonNumber

open Json

/-- The value of a number. -/
def rational (n : Number) : ℚ := n.mantissa * 10 ^ n.exponent

variable {a b c : Number}

theorem scaledTo_eq {n : Number} {e : ℤ} (h : e ≤ n.exponent) :
    (n.scaledTo e : ℚ) = rational n * 10 ^ (-e) := by
  obtain ⟨k, hk⟩ := Int.eq_ofNat_of_zero_le (Int.sub_nonneg.mpr h)
  rw [Number.scaledTo, hk, rational, Int.toNat_natCast, mul_assoc,
    ← zpow_add₀ (by norm_num : (10 : ℚ) ≠ 0), ← sub_eq_add_neg, hk, zpow_natCast]
  push_cast
  rfl

theorem valueLe_iff : a.valueLe b = true ↔ rational a ≤ rational b := by
  rw [Number.valueLe, decide_eq_true_iff]
  have hpos : (0 : ℚ) < 10 ^ (-min a.exponent b.exponent) := zpow_pos (by norm_num) _
  rw [← Int.cast_le (R := ℚ), scaledTo_eq (min_le_left _ _), scaledTo_eq (min_le_right _ _)]
  exact mul_le_mul_iff_of_pos_right hpos

theorem valueLe_refl (a : Number) : a.valueLe a = true := valueLe_iff.mpr le_rfl

theorem valueLe_trans (hab : a.valueLe b = true) (hbc : b.valueLe c = true) :
    a.valueLe c = true :=
  valueLe_iff.mpr ((valueLe_iff.mp hab).trans (valueLe_iff.mp hbc))

theorem valueLe_of_not (h : ¬ a.valueLe b = true) : b.valueLe a = true := by
  rw [valueLe_iff] at h ⊢
  exact le_of_not_ge h

/-- `max(a, b)`, which keeps the first of two equal values. -/
def maximum (a b : Number) : Number := if b.valueLe a then a else b

theorem valueLe_maximum_left (a b : Number) : a.valueLe (maximum a b) = true := by
  rw [maximum]
  split
  · exact valueLe_refl a
  · rename_i h
    exact valueLe_of_not h

theorem valueLe_maximum_right (a b : Number) : b.valueLe (maximum a b) = true := by
  rw [maximum]
  split
  · rename_i h
    exact h
  · exact valueLe_refl b

theorem maximum_eq (a b : Number) : maximum a b = a ∨ maximum a b = b := by
  rw [maximum]
  split
  · exact .inl rfl
  · exact .inr rfl

end MindscapeLocalCore.Library.JsonNumber
