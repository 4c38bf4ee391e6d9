import MindscapeLocalCore.Library.PythonText

/-!
`int` of a text: whitespace around it, a sign, and decimal digits of any script with single
underscores between them, of which there may not be too many.
-/

namespace MindscapeLocalCore.Library.PythonInt

open PythonText

def asciiDigit (c : Char) : Option ℕ := if c.isDigit then some (c.toNat - 48) else none

section Digits

variable (digit : Char → Option ℕ)

/-- What a character is worth; beyond ASCII the tables of Unicode say it. -/
def decimal (c : Char) : Option ℕ := if c.toNat < 128 then asciiDigit c else digit c

def scanDigits (afterDigit : Bool) : List Char → Option (List ℕ)
  | [] => if afterDigit then some [] else none
  | c :: rest =>
      match decimal digit c with
      | some d => (scanDigits true rest).map (d :: ·)
      | none => if afterDigit ∧ c = '_' then scanDigits false rest else none

def valueOf (digits : List ℕ) : ℕ := digits.foldl (fun n d => 10 * n + d) 0

def signed : List Char → Bool × List Char
  | '-' :: rest => (true, rest)
  | '+' :: rest => (false, rest)
  | chars => (false, chars)

/-- `int(text)`, where numbers of more digits than the limit are refused. -/
def parseInt (limit : ℕ) (text : String) : Option ℤ :=
  let (negative, chars) := signed (strip text).toList
  match scanDigits digit false chars with
  | none => none
  | some digits =>
      if digits.length ≤ limit then
        some (if negative then -(valueOf digits : ℤ) else valueOf digits)
      else none

end Digits

/-- A number written as it is sent between programs: digits of ASCII and nothing else. -/
def IsDigits (text : String) : Prop := text ≠ "" ∧ ∀ c ∈ text.toList, c.isDigit = true

instance (text : String) : Decidable (IsDigits text) :=
  haveI : Decidable (∀ c ∈ text.toList, c.isDigit = true) :=
    List.decidableBAll (fun c => c.isDigit = true) text.toList
  inferInstanceAs (Decidable (_ ∧ _))

def decimalValue (text : String) : ℕ := valueOf (text.toList.map fun c => c.toNat - 48)

variable {digit : Char → Option ℕ} {limit : ℕ} {text : String} {c : Char} {chars : List Char}

theorem decimal_of_isDigit (h : c.isDigit = true) : decimal digit c = some (c.toNat - 48) := by
  have hbounds : 48 ≤ c.toNat ∧ c.toNat ≤ 57 := Char.isDigit_iff_toNat.mp h
  rw [decimal, if_pos (by omega), asciiDigit, if_pos h]

theorem scanDigits_of_digits (h : ∀ c ∈ chars, c.isDigit = true) :
    scanDigits digit true chars = some (chars.map fun c => c.toNat - 48) := by
  induction chars with
  | nil => rfl
  | cons c chars ih =>
      obtain ⟨hc, hrest⟩ := List.forall_mem_cons.mp h
      rw [scanDigits, decimal_of_isDigit hc]
      show (scanDigits digit true chars).map _ = _
      rw [ih hrest]
      rfl

theorem unspaced_of_digits (h : ∀ c ∈ text.toList, c.isDigit = true) : Unspaced text := by
  intro c hc
  have hbounds : 48 ≤ c.toNat ∧ c.toNat ≤ 57 := Char.isDigit_iff_toNat.mp (h c hc)
  exact isSpace_of_visible (by omega) (by omega)

theorem signed_of_digits (h : ∀ c ∈ chars, c.isDigit = true) : signed chars = (false, chars) := by
  unfold signed
  split
  · exact absurd (h '-' List.mem_cons_self) (by decide)
  · exact absurd (h '+' List.mem_cons_self) (by decide)
  · rfl

theorem parseInt_of_isDigits (h : IsDigits text) :
    parseInt digit limit text =
      if text.toList.length ≤ limit then some (decimalValue text : ℤ) else none := by
  obtain ⟨hne, hdigits⟩ := h
  have hchars : text.toList ≠ [] := fun hnil => hne (String.toList_inj.mp hnil)
  have hscan : scanDigits digit false text.toList =
      some (text.toList.map fun c => c.toNat - 48) := by
    cases hlist : text.toList with
    | nil => exact absurd hlist hchars
    | cons c rest =>
        rw [hlist] at hdigits
        obtain ⟨hc, hrest⟩ := List.forall_mem_cons.mp hdigits
        rw [scanDigits, decimal_of_isDigit hc]
        show (scanDigits digit true rest).map _ = _
        rw [scanDigits_of_digits hrest]
        rfl
  rw [parseInt, strip_of_unspaced (unspaced_of_digits hdigits), signed_of_digits hdigits]
  show (match scanDigits digit false text.toList with | none => none | some digits => _) = _
  rw [hscan, decimalValue]
  simp only [List.length_map, Bool.false_eq_true, if_false]

theorem decimalValue_repr (n : ℕ) : decimalValue n.repr = n := by
  have hfold : ∀ (chars : List Char) (start : ℕ),
      (chars.map fun c => c.toNat - 48).foldl (fun n d => 10 * n + d) start =
        Nat.ofDigitChars 10 chars start := by
    intro chars start
    rw [Nat.ofDigitChars_eq_foldl, List.foldl_map]
    rfl
  rw [decimalValue, valueOf, hfold, Nat.repr, String.toList_ofList, Nat.ofDigitChars_ten_toDigits]

theorem isDigits_repr (n : ℕ) : IsDigits n.repr := by
  refine ⟨fun h => ?_, fun c hc => ?_⟩
  · have hchars : n.repr.toList = [] := congrArg String.toList h
    rw [Nat.repr, String.toList_ofList] at hchars
    exact Nat.toDigits_ne_nil hchars
  · rw [Nat.repr, String.toList_ofList] at hc
    exact Nat.isDigit_of_mem_toDigits (by decide) (by decide) hc

end MindscapeLocalCore.Library.PythonInt
