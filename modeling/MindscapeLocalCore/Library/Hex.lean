import Mathlib.Data.String.Basic
import Mathlib.Tactic.IntervalCases

/-!
Fixed-width lower-case hexadecimal text.
-/

namespace MindscapeLocalCore.Library.Hex

def hexDigit (n : Nat) : Char :=
  if n < 10 then Char.ofNat (48 + n) else Char.ofNat (87 + n)

/-- A character of the class `[a-f0-9]`. -/
def isHexDigit (c : Char) : Bool :=
  (decide ('a' ≤ c) && decide (c ≤ 'f')) || (decide ('0' ≤ c) && decide (c ≤ '9'))

/-- The last `width` hexadecimal digits of `n`, most significant first. -/
def hexText : Nat → Nat → List Char
  | 0, _ => []
  | width + 1, n => hexDigit (n / 16 ^ width % 16) :: hexText width n

@[simp] theorem length_hexText (width n : Nat) :
    (hexText width n).length = width := by
  induction width with
  | zero => rfl
  | succ width ih => simp [hexText, ih]

theorem isHexDigit_hexDigit (n : Nat) (h : n < 16) :
    isHexDigit (hexDigit n) = true := by
  interval_cases n <;> decide

theorem isHexDigit_of_mem_hexText {width n : Nat} {c : Char}
    (h : c ∈ hexText width n) : isHexDigit c = true := by
  induction width with
  | zero => simp [hexText] at h
  | succ width ih =>
      rcases List.mem_cons.mp h with rfl | h
      · exact isHexDigit_hexDigit _ (Nat.mod_lt _ (by decide))
      · exact ih h

theorem utf8Size_hexDigit (n : Nat) (h : n < 16) :
    (hexDigit n).utf8Size = 1 := by
  interval_cases n <;> decide

theorem utf8Len_hexText (width n : Nat) :
    String.utf8Len (hexText width n) = width := by
  induction width with
  | zero => rfl
  | succ width ih =>
      simp only [hexText, String.utf8Len_cons, ih]
      rw [utf8Size_hexDigit _ (Nat.mod_lt _ (by decide))]

theorem hexDigit_injective {a b : Nat} (ha : a < 16) (hb : b < 16)
    (h : hexDigit a = hexDigit b) : a = b := by
  interval_cases a <;> interval_cases b <;> first | rfl | (exact absurd h (by decide))

theorem hexText_injective {width a b : Nat}
    (h : hexText width a = hexText width b) :
    a % 16 ^ width = b % 16 ^ width := by
  induction width with
  | zero => simp [Nat.mod_one]
  | succ width ih =>
      simp only [hexText, List.cons.injEq] at h
      have hdigit : a / 16 ^ width % 16 = b / 16 ^ width % 16 :=
        hexDigit_injective (Nat.mod_lt _ (by decide))
          (Nat.mod_lt _ (by decide)) h.1
      rw [Nat.pow_succ, Nat.mod_mul, Nat.mod_mul, ih h.2, hdigit]

end MindscapeLocalCore.Library.Hex
