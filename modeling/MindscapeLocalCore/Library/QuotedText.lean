import Mathlib.Data.List.TakeWhile
import MindscapeLocalCore.Library.JsonText

/-!
Reading quoted text back, one character at a time: what was quoted is determined, and it takes
up no more than its line.
-/

namespace MindscapeLocalCore.Library.QuotedText

open JsonText Hex

/-- The number of a digit. -/
def hexValue (c : Char) : ℕ := if c.toNat < 58 then c.toNat - 48 else c.toNat - 87

/-- The character after a backslash. -/
def readEscape : List Char → Option (Char × List Char)
  | 'n' :: rest => some ('\n', rest)
  | 'r' :: rest => some ('\r', rest)
  | 't' :: rest => some ('\t', rest)
  | 'b' :: rest => some (Char.ofNat 8, rest)
  | 'f' :: rest => some (Char.ofNat 12, rest)
  | 'u' :: '0' :: '0' :: high :: low :: rest =>
      some (Char.ofNat (16 * hexValue high + hexValue low), rest)
  | c :: rest => some (c, rest)
  | [] => none

def readChar : List Char → Option (Char × List Char)
  | [] => none
  | c :: rest => if c = '\\' then readEscape rest else some (c, rest)

theorem hexValue_hexDigit {n : ℕ} (h : n < 16) : hexValue (hexDigit n) = n := by
  interval_cases n <;> decide

theorem ofNat_of_toNat_eq {c : Char} {n : ℕ} (h : c.toNat = n) : Char.ofNat n = c := by
  rw [← h, Char.ofNat_toNat]

theorem readChar_escapeChar (c : Char) (rest : List Char) :
    readChar (escapeChar c ++ rest) = some (c, rest) := by
  unfold escapeChar
  split_ifs with hquote hslash hline hreturn htab hback hfeed hcontrol
  · rw [hquote]; rfl
  · rw [hslash]; rfl
  · rw [hline]; rfl
  · rw [hreturn]; rfl
  · rw [htab]; rfl
  · rw [← ofNat_of_toNat_eq hback]; rfl
  · rw [← ofNat_of_toNat_eq hfeed]; rfl
  · show some (Char.ofNat (16 * hexValue (hexDigit (c.toNat / 16)) +
      hexValue (hexDigit (c.toNat % 16))), rest) = some (c, rest)
    rw [hexValue_hexDigit (by omega), hexValue_hexDigit (by omega), Nat.div_add_mod,
      Char.ofNat_toNat]
  · exact if_neg hslash

theorem flatMap_escapeChar_injective {cs ds : List Char}
    (h : cs.flatMap escapeChar = ds.flatMap escapeChar) : cs = ds := by
  have hread : ∀ c (cs : List Char),
      readChar ((c :: cs).flatMap escapeChar) = some (c, cs.flatMap escapeChar) := by
    intro c cs
    rw [List.flatMap_cons]
    exact readChar_escapeChar c _
  induction cs generalizing ds with
  | nil =>
      cases ds with
      | nil => rfl
      | cons d ds =>
          have hnone := hread d ds
          rw [← h] at hnone
          cases hnone
  | cons c cs ih =>
      cases ds with
      | nil =>
          have hnone := hread c cs
          rw [h] at hnone
          cases hnone
      | cons d ds =>
          have hsame := hread c cs
          rw [h, hread d ds] at hsame
          obtain ⟨hchar, hrest⟩ := Prod.mk.inj (Option.some.inj hsame)
          rw [hchar, ih hrest.symm]

theorem toList_quote (s : String) :
    (quote s).toList = '"' :: (s.toList.flatMap escapeChar ++ ['"']) := by
  simp only [quote, String.toList_append, String.toList_ofList, List.append_assoc]
  rfl

theorem quote_injective {s t : String} (h : quote s = quote t) : s = t := by
  have hchars := congrArg String.toList h
  rw [toList_quote, toList_quote] at hchars
  have hflat := List.append_cancel_right (List.cons.inj hchars).2
  exact String.toList_injective (flatMap_escapeChar_injective hflat)

theorem hexDigit_ne_newline {n : ℕ} (h : n < 16) : hexDigit n ≠ '\n' := by
  interval_cases n <;> decide

theorem newline_not_mem_escapeChar (c : Char) : '\n' ∉ escapeChar c := by
  unfold escapeChar
  split_ifs with hquote hslash hline
  · decide
  · decide
  · decide
  · decide
  · decide
  · decide
  · decide
  · have hhigh := hexDigit_ne_newline (n := c.toNat / 16) (by omega)
    have hlow := hexDigit_ne_newline (n := c.toNat % 16) (by omega)
    simp only [List.mem_cons, List.not_mem_nil, or_false, not_or]
    exact ⟨by decide, by decide, by decide, by decide, hhigh.symm, hlow.symm⟩
  · exact fun hmem => hline (List.mem_singleton.mp hmem).symm

theorem newline_not_mem_quote (s : String) : '\n' ∉ (quote s).toList := by
  rw [toList_quote]
  simp only [List.mem_cons, List.mem_append, List.mem_flatMap, List.not_mem_nil, or_false, not_or,
    not_exists, not_and]
  exact ⟨by decide, fun c _ => newline_not_mem_escapeChar c, by decide⟩

theorem takeWhile_line {line rest : List Char} (h : '\n' ∉ line) :
    (line ++ '\n' :: rest).takeWhile (· ≠ '\n') = line := by
  have hline : ∀ c ∈ line, decide (c ≠ '\n') = true :=
    fun c hc => decide_eq_true fun hnew => h (hnew ▸ hc)
  rw [List.takeWhile_append_of_pos hline, List.takeWhile_cons_of_neg (by decide), List.append_nil]

theorem append_newline_inj {a b r t : String} (ha : '\n' ∉ a.toList) (hb : '\n' ∉ b.toList)
    (h : a ++ "\n" ++ r = b ++ "\n" ++ t) : a = b ∧ r = t := by
  have hchars := congrArg String.toList h
  simp only [String.toList_append, List.append_assoc] at hchars
  have hsplit : a.toList ++ '\n' :: r.toList = b.toList ++ '\n' :: t.toList := hchars
  have hline := congrArg (List.takeWhile (· ≠ '\n')) hsplit
  rw [takeWhile_line ha, takeWhile_line hb] at hline
  rw [hline] at hsplit
  have hrest := (List.cons.inj (List.append_cancel_left hsplit)).2
  exact ⟨String.toList_injective hline, String.toList_injective hrest⟩

end MindscapeLocalCore.Library.QuotedText
