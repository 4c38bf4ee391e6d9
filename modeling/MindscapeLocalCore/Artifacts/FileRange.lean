import MindscapeLocalCore.Library.PythonInt

/-!
A single range of the bytes of a file: how the header of a request is read, and how the bytes are
sent chunk by chunk.
-/

namespace MindscapeLocalCore.Artifacts.FileRange

open Library Library.PythonInt Library.TextParts
open PythonText (startsWith)

/-- `sys.get_int_max_str_digits()` -/
def maxStrDigits : ℕ := 4300

section Code

-- What the digits of other scripts are worth.
variable (digit : Char → Option ℕ)

/-- `int(text)` -/
def int (text : String) : Option ℤ := parseInt digit maxStrDigits text

/-- The bounds that two texts give; a suffix that is not positive is a `ValueError` too. -/
def rangeBounds (startText endText : String) (fileSize : ℤ) : Option (ℤ × ℤ) :=
  if startText = "" then do
    let suffixLength ← int digit endText
    if suffixLength ≤ 0 then none else some (max 0 (fileSize - suffixLength), fileSize - 1)
  else do
    let start ← int digit startText
    if endText = "" then some (start, fileSize - 1)
    else (int digit endText).map fun last => (start, last)

/-- `parse_single_byte_range`, with the reason for a range that is not satisfiable. -/
def parseSingleByteRange (value : String) (fileSize : ℤ) : Except String (ℤ × ℤ) :=
  if fileSize ≤ 0 ∨ ¬ startsWith "bytes=" value = true ∨ ',' ∈ value.toList then
    .error "unsupported_range"
  else
    let (startText, separator, endText) := partition '-' (String.ofList (value.toList.drop 6))
    if separator = false ∨ startText = "" ∧ endText = "" then .error "malformed_range"
    else
      match rangeBounds digit startText endText fileSize with
      | none => .error "malformed_range"
      | some (start, last) =>
          if start < 0 ∨ fileSize ≤ start ∨ last < start then .error "range_outside_file"
          else .ok (start, min last (fileSize - 1))

end Code

/-- `stream.read(size)` at a position of a file. -/
def read (content : List UInt8) (position size : ℕ) : List UInt8 := (content.drop position).take size

/-- The chunks of `_read_file_range`, from a position with some bytes remaining. -/
def readChunks (content : List UInt8) (chunkSize position remaining : ℕ) : List (List UInt8) :=
  if remaining = 0 then []
  else
    let chunk := read content position (min chunkSize remaining)
    if chunk = [] then []
    else chunk :: readChunks content chunkSize (position + chunk.length) (remaining - chunk.length)
termination_by remaining
decreasing_by
  have hpositive : 0 < (read content position (min chunkSize remaining)).length :=
    List.length_pos_iff.mpr ‹_›
  omega

def readFileRange (content : List UInt8) (first last : ℤ) (chunkSize : ℕ) : List (List UInt8) :=
  readChunks content chunkSize first.toNat (last - first + 1).toNat

/-- The `Content-Length` that is announced. -/
def contentLength (first last : ℤ) : ℤ := last - first + 1

/-! ### What a range means -/

inductive ByteRange where
  | span (first last : ℕ)
  | since (first : ℕ)
  | suffix (length : ℕ)

inductive Writes : String → ByteRange → Prop
  | span {first last : String} (hfirst : IsDigits first) (hlast : IsDigits last) :
      Writes ("bytes=" ++ first ++ "-" ++ last) (.span (decimalValue first) (decimalValue last))
  | since {first : String} (hfirst : IsDigits first) :
      Writes ("bytes=" ++ first ++ "-") (.since (decimalValue first))
  | suffix {length : String} (hlength : IsDigits length) :
      Writes ("bytes=-" ++ length) (.suffix (decimalValue length))

def ByteRange.Satisfiable (size : ℤ) : ByteRange → Prop
  | .span first last => first < size ∧ first ≤ last
  | .since first => first < size
  | .suffix length => 0 < length ∧ 0 < size

def ByteRange.bounds (size : ℤ) : ByteRange → ℤ × ℤ
  | .span first last => (first, min last (size - 1))
  | .since first => (first, size - 1)
  | .suffix length => (max 0 (size - length), size - 1)

/-- A header is read as the range that it writes, where that is satisfiable, and refused else. -/
def ParsedExactly (digit : Char → Option ℕ) (header : String) (size : ℤ) : Prop :=
  ∀ bounds, parseSingleByteRange digit header size = .ok bounds ↔
    ∃ range : ByteRange, Writes header range ∧ range.Satisfiable size ∧ bounds = range.bounds size

def bytesBetween (content : List UInt8) (first last : ℤ) : List UInt8 :=
  (content.take (last + 1).toNat).drop first.toNat

def ServedExactly (digit : Char → Option ℕ) (header : String) (content : List UInt8)
    (chunkSize : ℕ) : Prop :=
  ParsedExactly digit header content.length ∧
    ∀ first last, parseSingleByteRange digit header content.length = .ok (first, last) →
      (readFileRange content first last chunkSize).flatten = bytesBetween content first last ∧
        ((readFileRange content first last chunkSize).flatten.length : ℤ) = contentLength first last

/-! ### What `int` takes -/

def Texts (header startText endText : String) : Prop :=
  header.toList = "bytes=".toList ++ startText.toList ++ '-' :: endText.toList ∧
    '-' ∉ startText.toList ∧ ',' ∉ header.toList

def InDigits (startText endText : String) : Prop :=
  (startText = "" ∨ IsDigits startText) ∧ (endText = "" ∨ IsDigits endText)

instance (startText endText : String) : Decidable (InDigits startText endText) :=
  inferInstanceAs (Decidable (_ ∧ _))

def InFile (size : ℤ) : Option ℤ → Option ℤ → Prop
  | some first, some last => 0 ≤ first ∧ first < size ∧ first ≤ last
  | some first, none => 0 ≤ first ∧ first < size
  | none, some length => 0 < length ∧ 0 < size
  | none, none => False

def optional (reader : String → Option ℤ) (text : String) : Option (Option ℤ) :=
  if text = "" then some none else (reader text).map some

def ReadInFile (reader : String → Option ℤ) (startText endText : String) (size : ℤ) : Prop :=
  ∃ first last, optional reader startText = some first ∧ optional reader endText = some last ∧
    InFile size first last

/-- The numbers of a header are digits of ASCII that `int` takes, or those that it takes are no
range of the file, nor are its digits. -/
def ReadAlike (digit : Char → Option ℕ) (header : String) (size : ℤ) : Prop :=
  ∀ startText endText, Texts header startText endText →
    (¬ InDigits startText endText → ¬ ReadInFile (int digit) startText endText size) ∧
      (InDigits startText endText →
        (startText.toList.length ≤ maxStrDigits ∧ endText.toList.length ≤ maxStrDigits) ∨
          ¬ ReadInFile (fun text => some (decimalValue text : ℤ)) startText endText size)

variable {digit : Char → Option ℕ} {header startText endText : String} {size : ℤ}

/-! ### Reading headers -/

def boundsOf (size : ℤ) : Option ℤ → Option ℤ → ℤ × ℤ
  | some first, some last => (first, min last (size - 1))
  | some first, none => (first, size - 1)
  | none, some length => (max 0 (size - length), size - 1)
  | none, none => (0, 0)

theorem pos_of_inFile {first last : Option ℤ} (h : InFile size first last) : 0 < size := by
  cases first with
  | none =>
      cases last with
      | none => exact h.elim
      | some length => exact h.2
  | some first =>
      cases last with
      | none =>
          have hbounds : 0 ≤ first ∧ first < size := h
          omega
      | some last =>
          have hbounds : 0 ≤ first ∧ first < size ∧ first ≤ last := h
          omega

theorem startsWith_bytes_iff :
    startsWith "bytes=" header = true ↔
      header.toList = "bytes=".toList ++ header.toList.drop 6 := by
  rw [startsWith, List.isPrefixOf_iff_prefix]
  constructor
  · rintro ⟨rest, hrest⟩
    rw [← hrest]
    rfl
  · intro h
    rw [h]
    exact List.prefix_append _ _

theorem rangeBounds_eq_some {start last : ℤ} :
    rangeBounds digit startText endText size = some (start, last) ↔
      (startText = "" ∧ ∃ length, int digit endText = some length ∧ 0 < length ∧
        start = max 0 (size - length) ∧ last = size - 1) ∨
      (startText ≠ "" ∧ int digit startText = some start ∧
        (endText = "" ∧ last = size - 1 ∨ endText ≠ "" ∧ int digit endText = some last)) := by
  rw [rangeBounds]
  split
  · rename_i hstart
    rw [Option.bind_eq_bind, Option.bind_eq_some_iff]
    constructor
    · rintro ⟨length, hlength, h⟩
      split at h
      · cases h
      · obtain ⟨rfl, rfl⟩ := Prod.mk.inj (Option.some.inj h)
        exact .inl ⟨hstart, length, hlength, by omega, rfl, rfl⟩
    · rintro (⟨-, length, hlength, hpositive, rfl, rfl⟩ | ⟨hne, -⟩)
      · exact ⟨length, hlength, if_neg (by omega)⟩
      · exact absurd hstart hne
  · rename_i hstart
    rw [Option.bind_eq_bind, Option.bind_eq_some_iff]
    constructor
    · rintro ⟨first, hfirst, h⟩
      split at h
      · rename_i hend
        obtain ⟨rfl, rfl⟩ := Prod.mk.inj (Option.some.inj h)
        exact .inr ⟨hstart, hfirst, .inl ⟨hend, rfl⟩⟩
      · rename_i hend
        obtain ⟨final, hfinal, hpair⟩ := Option.map_eq_some_iff.mp h
        obtain ⟨rfl, rfl⟩ := Prod.mk.inj hpair
        exact .inr ⟨hstart, hfirst, .inr ⟨hend, hfinal⟩⟩
    · rintro (⟨hempty, -⟩ | ⟨-, hfirst, ⟨hend, rfl⟩ | ⟨hend, hlast⟩⟩)
      · exact absurd hempty hstart
      · exact ⟨start, hfirst, if_pos hend⟩
      · refine ⟨start, hfirst, ?_⟩
        rw [if_neg hend, hlast]
        rfl

theorem optional_eq_none {reader : String → Option ℤ} :
    optional reader startText = some none ↔ startText = "" := by
  rw [optional]
  split
  · rename_i hempty
    exact iff_of_true rfl hempty
  · rename_i hnamed
    refine iff_of_false (fun h => ?_) hnamed
    obtain ⟨n, -, hn⟩ := Option.map_eq_some_iff.mp h
    cases hn

theorem optional_eq_some {reader : String → Option ℤ} {n : ℤ} :
    optional reader startText = some (some n) ↔ startText ≠ "" ∧ reader startText = some n := by
  rw [optional]
  split
  · rename_i hempty
    refine iff_of_false (fun h => ?_) fun h => h.1 hempty
    cases Option.some.inj h
  · rename_i hnamed
    rw [Option.map_eq_some_iff, and_iff_right hnamed]
    simp only [Option.some.injEq, exists_eq_right]

theorem rangeBounds_iff {bounds : ℤ × ℤ} (hsize : 0 < size)
    (hnamed : ¬ (startText = "" ∧ endText = "")) :
    (∃ start last, rangeBounds digit startText endText size = some (start, last) ∧
        ¬ (start < 0 ∨ size ≤ start ∨ last < start) ∧ bounds = (start, min last (size - 1))) ↔
      ∃ first last, optional (int digit) startText = some first ∧
        optional (int digit) endText = some last ∧ InFile size first last ∧
          bounds = boundsOf size first last := by
  simp only [rangeBounds_eq_some]
  constructor
  · rintro ⟨start, last, ⟨hstart, length, hlength, hpositive, rfl, rfl⟩ | ⟨hstart, hfirst, hend⟩, hin,
      rfl⟩
    · have hend : endText ≠ "" := fun hend => hnamed ⟨hstart, hend⟩
      refine ⟨none, some length, optional_eq_none.mpr hstart, optional_eq_some.mpr ⟨hend, hlength⟩,
        ⟨hpositive, hsize⟩, ?_⟩
      rw [boundsOf, Int.min_self]
    · rcases hend with ⟨hend, rfl⟩ | ⟨hend, hlast⟩
      · refine ⟨some start, none, optional_eq_some.mpr ⟨hstart, hfirst⟩, optional_eq_none.mpr hend,
          ?_, ?_⟩
        · show 0 ≤ start ∧ start < size
          omega
        · rw [boundsOf, Int.min_self]
      · refine ⟨some start, some last, optional_eq_some.mpr ⟨hstart, hfirst⟩,
          optional_eq_some.mpr ⟨hend, hlast⟩, ?_, rfl⟩
        show 0 ≤ start ∧ start < size ∧ start ≤ last
        omega
  · rintro ⟨first, last, hfirst, hlast, hin, rfl⟩
    cases first with
    | none =>
        have hstart := optional_eq_none.mp hfirst
        cases last with
        | none => exact hin.elim
        | some length =>
            obtain ⟨hpositive, -⟩ : 0 < length ∧ 0 < size := hin
            refine ⟨max 0 (size - length), size - 1, .inl ⟨hstart, length,
              (optional_eq_some.mp hlast).2, hpositive, rfl, rfl⟩, by omega, ?_⟩
            rw [boundsOf, Int.min_self]
    | some start =>
        obtain ⟨hstart, hfirst⟩ := optional_eq_some.mp hfirst
        cases last with
        | none =>
            obtain ⟨hnonneg, hless⟩ : 0 ≤ start ∧ start < size := hin
            refine ⟨start, size - 1, .inr ⟨hstart, hfirst, .inl ⟨optional_eq_none.mp hlast, rfl⟩⟩,
              by omega, ?_⟩
            rw [boundsOf, Int.min_self]
        | some last =>
            obtain ⟨hnonneg, hless, hle⟩ : 0 ≤ start ∧ start < size ∧ start ≤ last := hin
            exact ⟨start, last, .inr ⟨hstart, hfirst, .inr (optional_eq_some.mp hlast)⟩, by omega, rfl⟩

theorem texts_iff :
    Texts header startText endText ↔
      (startsWith "bytes=" header = true ∧ ',' ∉ header.toList) ∧
        partition '-' (String.ofList (header.toList.drop 6)) = (startText, true, endText) := by
  have hrest : (String.ofList (header.toList.drop 6)).toList = header.toList.drop 6 :=
    String.toList_ofList
  rw [Texts, startsWith_bytes_iff, partition_eq_true, hrest]
  constructor
  · rintro ⟨hheader, hdash, hcomma⟩
    have hdrop : header.toList.drop 6 = startText.toList ++ '-' :: endText.toList := by
      rw [hheader, List.append_assoc]
      rfl
    refine ⟨⟨?_, hcomma⟩, hdrop, hdash⟩
    rw [hdrop, hheader, List.append_assoc]
  · rintro ⟨⟨hbytes, hcomma⟩, hdrop, hdash⟩
    refine ⟨?_, hdash, hcomma⟩
    rw [hdrop] at hbytes
    rw [hbytes, List.append_assoc]

theorem parse_eq_ok {bounds : ℤ × ℤ} :
    parseSingleByteRange digit header size = .ok bounds ↔
      ∃ startText endText, Texts header startText endText ∧
        ∃ first last, optional (int digit) startText = some first ∧
          optional (int digit) endText = some last ∧ InFile size first last ∧
            bounds = boundsOf size first last := by
  rw [parseSingleByteRange]
  split
  · rename_i hunsupported
    refine iff_of_false nofun ?_
    rintro ⟨startText, endText, htexts, first, last, -, -, hin, -⟩
    obtain ⟨⟨hbytes, hcomma⟩, -⟩ := texts_iff.mp htexts
    have hsize := pos_of_inFile hin
    rcases hunsupported with hsize' | hbytes' | hcomma'
    · omega
    · exact hbytes' hbytes
    · exact hcomma hcomma'
  · rename_i hsupported
    rw [not_or, not_or] at hsupported
    obtain ⟨hsize, hbytes, hcomma⟩ := hsupported
    have hsize : 0 < size := by omega
    have hstart : startsWith "bytes=" header = true ∧ ',' ∉ header.toList :=
      ⟨not_not.mp hbytes, hcomma⟩
    obtain ⟨startText, separator, endText, hparts⟩ : ∃ startText separator endText,
        partition '-' (String.ofList (header.toList.drop 6)) = (startText, separator, endText) :=
      ⟨_, _, _, rfl⟩
    rw [hparts]
    have htexts : ∀ first last, Texts header first last ↔
        separator = true ∧ startText = first ∧ endText = last := by
      intro first last
      rw [texts_iff, and_iff_right hstart, hparts, Prod.mk.injEq, Prod.mk.injEq]
      exact and_left_comm
    simp only [htexts]
    split
    · rename_i hmalformed
      refine iff_of_false nofun ?_
      rintro ⟨_, _, ⟨htrue, rfl, rfl⟩, first, last, hfirst, hlast, hin, -⟩
      rcases hmalformed with hfalse | ⟨hempty, hempty'⟩
      · rw [htrue] at hfalse
        cases hfalse
      · rw [optional, if_pos hempty] at hfirst
        rw [optional, if_pos hempty'] at hlast
        obtain rfl := Option.some.inj hfirst
        obtain rfl := Option.some.inj hlast
        exact hin
    · rename_i hformed
      rw [not_or, Bool.not_eq_false] at hformed
      obtain ⟨htrue, hnamed⟩ := hformed
      have hread := @rangeBounds_iff digit startText endText size bounds hsize hnamed
      have hright : (∃ first last, (separator = true ∧ startText = first ∧ endText = last) ∧
          ∃ start final, optional (int digit) first = some start ∧
            optional (int digit) last = some final ∧ InFile size start final ∧
              bounds = boundsOf size start final) ↔
          ∃ start final, optional (int digit) startText = some start ∧
            optional (int digit) endText = some final ∧ InFile size start final ∧
              bounds = boundsOf size start final := by
        constructor
        · rintro ⟨_, _, ⟨-, rfl, rfl⟩, h⟩
          exact h
        · exact fun h => ⟨_, _, ⟨htrue, rfl, rfl⟩, h⟩
      rw [hright, ← hread]
      cases hbounds : rangeBounds digit startText endText size with
      | none => exact iff_of_false nofun (by rintro ⟨_, _, h, -⟩; cases h)
      | some found =>
          obtain ⟨start, last⟩ := found
          show (if start < 0 ∨ size ≤ start ∨ last < start then _ else _) = _ ↔ _
          split
          · rename_i houtside
            refine iff_of_false nofun ?_
            rintro ⟨_, _, h, hin, -⟩
            obtain ⟨rfl, rfl⟩ := Prod.mk.inj (Option.some.inj h)
            exact hin houtside
          · rename_i hinside
            rw [Except.ok.injEq]
            constructor
            · rintro rfl
              exact ⟨start, last, rfl, hinside, rfl⟩
            · rintro ⟨_, _, h, -, rfl⟩
              obtain ⟨rfl, rfl⟩ := Prod.mk.inj (Option.some.inj h)
              rfl

theorem texts_unique {first last : String} (h : Texts header startText endText)
    (h' : Texts header first last) : startText = first ∧ endText = last := by
  have hparts := (texts_iff.mp h).2.symm.trans (texts_iff.mp h').2
  exact ⟨(Prod.mk.inj hparts).1, (Prod.mk.inj (Prod.mk.inj hparts).2).2⟩

/-! ### Reading exactly -/

def written (text : String) : Option ℤ := some (decimalValue text : ℤ)

theorem not_mem_of_digits {c : Char} (hc : c.isDigit = false)
    (h : startText = "" ∨ IsDigits startText) : c ∉ startText.toList := by
  rcases h with rfl | ⟨-, hdigits⟩
  · exact List.not_mem_nil
  · intro hmem
    rw [hdigits c hmem] at hc
    cases hc

theorem optional_int_iff (h : startText = "" ∨ IsDigits startText) {n : Option ℤ} :
    optional (int digit) startText = some n ↔
      startText.toList.length ≤ maxStrDigits ∧ optional written startText = some n := by
  rcases h with rfl | hdigits
  · exact (and_iff_right (Nat.zero_le _)).symm
  · rw [optional, optional, if_neg hdigits.1, if_neg hdigits.1, int, parseInt_of_isDigits hdigits,
      written]
    split
    · rename_i hshort
      exact (and_iff_right hshort).symm
    · rename_i hlong
      exact iff_of_false nofun fun h => hlong h.1

theorem texts_of_digits (hdigits : InDigits startText endText)
    (hheader : header.toList = "bytes=".toList ++ startText.toList ++ '-' :: endText.toList) :
    Texts header startText endText := by
  have hdash : '-' ∉ startText.toList := not_mem_of_digits (by decide) hdigits.1
  refine ⟨hheader, hdash, ?_⟩
  rw [hheader, List.mem_append, List.mem_append, List.mem_cons]
  rintro ((hmem | hmem) | hmem | hmem)
  · revert hmem
    decide
  · exact not_mem_of_digits (by decide) hdigits.1 hmem
  · exact absurd hmem (by decide)
  · exact not_mem_of_digits (by decide) hdigits.2 hmem

theorem writes_iff {bounds : ℤ × ℤ} :
    (∃ range : ByteRange, Writes header range ∧ range.Satisfiable size ∧
        bounds = range.bounds size) ↔
      ∃ startText endText, Texts header startText endText ∧ InDigits startText endText ∧
        ∃ first last, optional written startText = some first ∧
          optional written endText = some last ∧ InFile size first last ∧
            bounds = boundsOf size first last := by
  constructor
  · rintro ⟨_, hwrites, hsatisfiable, rfl⟩
    cases hwrites with
    | @span first last hfirst hlast =>
        have hdigits : InDigits first last := ⟨.inr hfirst, .inr hlast⟩
        refine ⟨first, last, texts_of_digits hdigits ?_, hdigits, some (decimalValue first : ℤ),
          some (decimalValue last : ℤ), if_neg hfirst.1, if_neg hlast.1, ?_, rfl⟩
        · simp only [String.toList_append, List.append_assoc]
          rfl
        · obtain ⟨hless, hle⟩ :
            (decimalValue first : ℤ) < size ∧ decimalValue first ≤ decimalValue last := hsatisfiable
          show (0 : ℤ) ≤ decimalValue first ∧ (decimalValue first : ℤ) < size ∧ _ ≤ _
          omega
    | @since first hfirst =>
        have hdigits : InDigits first "" := ⟨.inr hfirst, .inl rfl⟩
        refine ⟨first, "", texts_of_digits hdigits ?_, hdigits, some (decimalValue first : ℤ), none,
          if_neg hfirst.1, rfl, ?_, rfl⟩
        · simp only [String.toList_append, List.append_assoc]
          rfl
        · have hless : (decimalValue first : ℤ) < size := hsatisfiable
          show (0 : ℤ) ≤ decimalValue first ∧ (decimalValue first : ℤ) < size
          omega
    | @suffix length hlength =>
        have hdigits : InDigits "" length := ⟨.inl rfl, .inr hlength⟩
        refine ⟨"", length, texts_of_digits hdigits ?_, hdigits, none,
          some (decimalValue length : ℤ), rfl, if_neg hlength.1, ?_, rfl⟩
        · rw [String.toList_append]
          rfl
        · obtain ⟨hpositive, hsize⟩ : 0 < decimalValue length ∧ 0 < size := hsatisfiable
          show (0 : ℤ) < decimalValue length ∧ 0 < size
          omega
  · rintro ⟨startText, endText, ⟨hheader, -⟩, hdigits, first, last, hfirst, hlast, hin, rfl⟩
    obtain ⟨hstart, hend⟩ := hdigits
    rcases hstart with rfl | hstart
    · obtain rfl : none = first := Option.some.inj hfirst
      rcases hend with rfl | hend
      · obtain rfl : none = last := Option.some.inj hlast
        exact hin.elim
      · rw [optional, if_neg hend.1] at hlast
        obtain rfl := Option.some.inj hlast
        obtain rfl : header = "bytes=-" ++ endText := by
          refine String.toList_inj.mp ?_
          rw [hheader, String.toList_append]
          rfl
        obtain ⟨hpositive, hsize⟩ : (0 : ℤ) < decimalValue endText ∧ 0 < size := hin
        exact ⟨_, .suffix hend, ⟨by omega, hsize⟩, rfl⟩
    · rw [optional, if_neg hstart.1] at hfirst
      obtain rfl := Option.some.inj hfirst
      rcases hend with rfl | hend
      · obtain rfl : none = last := Option.some.inj hlast
        obtain rfl : header = "bytes=" ++ startText ++ "-" := by
          refine String.toList_inj.mp ?_
          rw [hheader, String.toList_append, String.toList_append]
          rfl
        obtain ⟨-, hless⟩ : (0 : ℤ) ≤ decimalValue startText ∧ (decimalValue startText : ℤ) < size := hin
        exact ⟨_, .since hstart, hless, rfl⟩
      · rw [optional, if_neg hend.1] at hlast
        obtain rfl := Option.some.inj hlast
        obtain rfl : header = "bytes=" ++ startText ++ "-" ++ endText := by
          refine String.toList_inj.mp ?_
          simp only [hheader, String.toList_append, List.append_assoc]
          rfl
        obtain ⟨-, hless, hle⟩ : (0 : ℤ) ≤ decimalValue startText ∧
          (decimalValue startText : ℤ) < size ∧
            (decimalValue startText : ℤ) ≤ decimalValue endText := hin
        exact ⟨_, .span hstart hend, ⟨hless, by omega⟩, rfl⟩

theorem parsedExactly_iff : ParsedExactly digit header size ↔ ReadAlike digit header size := by
  simp only [ParsedExactly, parse_eq_ok, writes_iff]
  constructor
  · intro hexact startText endText htexts
    constructor
    · rintro hother ⟨first, last, hfirst, hlast, hin⟩
      obtain ⟨_, _, htexts', hdigits, -⟩ := (hexact (boundsOf size first last)).mp
        ⟨startText, endText, htexts, first, last, hfirst, hlast, hin, rfl⟩
      obtain ⟨rfl, rfl⟩ := texts_unique htexts htexts'
      exact hother hdigits
    · intro hdigits
      refine Decidable.or_iff_not_imp_left.mpr fun hlong => ?_
      rintro ⟨first, last, hfirst, hlast, hin⟩
      obtain ⟨_, _, htexts', first', last', hfirst', hlast', -⟩ :=
        (hexact (boundsOf size first last)).mpr
          ⟨startText, endText, htexts, hdigits, first, last, hfirst, hlast, hin, rfl⟩
      obtain ⟨rfl, rfl⟩ := texts_unique htexts htexts'
      exact hlong ⟨((optional_int_iff hdigits.1).mp hfirst').1,
        ((optional_int_iff hdigits.2).mp hlast').1⟩
  · intro halike bounds
    constructor
    · rintro ⟨startText, endText, htexts, first, last, hfirst, hlast, hin, rfl⟩
      obtain ⟨hother, -⟩ := halike startText endText htexts
      have hdigits : InDigits startText endText := by
        by_contra hnot
        exact hother hnot ⟨first, last, hfirst, hlast, hin⟩
      exact ⟨startText, endText, htexts, hdigits, first, last,
        ((optional_int_iff hdigits.1).mp hfirst).2, ((optional_int_iff hdigits.2).mp hlast).2, hin, rfl⟩
    · rintro ⟨startText, endText, htexts, hdigits, first, last, hfirst, hlast, hin, rfl⟩
      obtain ⟨-, hshort⟩ := halike startText endText htexts
      rcases hshort hdigits with ⟨hstart, hend⟩ | hnone
      · exact ⟨startText, endText, htexts, first, last, (optional_int_iff hdigits.1).mpr ⟨hstart, hfirst⟩,
          (optional_int_iff hdigits.2).mpr ⟨hend, hlast⟩, hin, rfl⟩
      · exact absurd ⟨first, last, hfirst, hlast, hin⟩ hnone

/-! ### Sending -/

variable {content : List UInt8} {chunkSize position remaining : ℕ}

theorem flatten_readChunks (hchunk : 0 < chunkSize) :
    (readChunks content chunkSize position remaining).flatten =
      (content.drop position).take remaining := by
  fun_induction readChunks content chunkSize position remaining with
  | case1 position => rfl
  | case2 position remaining hremaining chunk hempty =>
      have hnil : (content.drop position).take (min chunkSize remaining) = [] := hempty
      have hend : content.drop position = [] :=
        (List.take_eq_nil_iff.mp hnil).resolve_left (by omega)
      rw [hend, List.take_nil]
      rfl
  | case3 position remaining hremaining chunk hmore ih =>
      have hchunk' : chunk = (content.drop position).take (min chunkSize remaining) := rfl
      have hlength : chunk.length ≤ remaining := by
        rw [hchunk', List.length_take]
        omega
      have hstart : chunk = (content.drop position).take chunk.length :=
        List.prefix_iff_eq_take.mp (List.take_prefix _ _)
      rw [List.flatten_cons, ih, ← List.drop_drop]
      calc chunk ++ ((content.drop position).drop chunk.length).take (remaining - chunk.length)
          = (content.drop position).take chunk.length ++
              ((content.drop position).drop chunk.length).take (remaining - chunk.length) := by
            rw [← hstart]
        _ = (content.drop position).take (chunk.length + (remaining - chunk.length)) :=
            List.take_add.symm
        _ = (content.drop position).take remaining := by
            congr 1
            omega

theorem bounds_of_parse {first last : ℤ}
    (h : parseSingleByteRange digit header size = .ok (first, last)) :
    0 ≤ first ∧ first ≤ last ∧ last < size := by
  obtain ⟨-, -, -, start, final, -, -, hin, hbounds⟩ := parse_eq_ok.mp h
  cases start with
  | none =>
      cases final with
      | none => exact hin.elim
      | some length =>
          obtain ⟨hpositive, hsize⟩ : 0 < length ∧ 0 < size := hin
          obtain ⟨rfl, rfl⟩ := Prod.mk.inj hbounds
          omega
  | some start =>
      cases final with
      | none =>
          obtain ⟨hnonneg, hless⟩ : 0 ≤ start ∧ start < size := hin
          obtain ⟨rfl, rfl⟩ := Prod.mk.inj hbounds
          omega
      | some final =>
          obtain ⟨hnonneg, hless, hle⟩ : 0 ≤ start ∧ start < size ∧ start ≤ final := hin
          obtain ⟨rfl, rfl⟩ := Prod.mk.inj hbounds
          omega

theorem readFileRange_exact (hchunk : 0 < chunkSize) {first last : ℤ} (hfirst : 0 ≤ first)
    (hle : first ≤ last) (hlast : last < content.length) :
    (readFileRange content first last chunkSize).flatten = bytesBetween content first last ∧
      ((readFileRange content first last chunkSize).flatten.length : ℤ) =
        contentLength first last := by
  have hbytes : (readFileRange content first last chunkSize).flatten =
      bytesBetween content first last := by
    rw [readFileRange, flatten_readChunks hchunk, bytesBetween, List.drop_take]
    congr 1
    omega
  refine ⟨hbytes, ?_⟩
  rw [hbytes, bytesBetween, List.length_drop, List.length_take, contentLength]
  omega

end MindscapeLocalCore.Artifacts.FileRange
