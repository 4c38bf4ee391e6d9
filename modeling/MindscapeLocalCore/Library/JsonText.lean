import Mathlib.Data.Nat.Digits.Defs
import MindscapeLocalCore.Library.Hex
import MindscapeLocalCore.Library.Json

/-!
The text of a JSON document, as printed by a serializer that leaves non-ASCII
characters alone.  Serializers differ in their separators and in the text of a
number; both are parameters of the printer.
-/

namespace MindscapeLocalCore.Library.JsonText

open Hex Json

/-- What a serializer writes between members, after a key, and for a number. -/
structure Style where
  itemSeparator : String
  keySeparator : String
  number : Number → String

/-- The characters that stand for `c` inside a quoted string. -/
def escapeChar (c : Char) : List Char :=
  if c = '"' then ['\\', '"']
  else if c = '\\' then ['\\', '\\']
  else if c = '\n' then ['\\', 'n']
  else if c = '\r' then ['\\', 'r']
  else if c = '\t' then ['\\', 't']
  else if c.toNat = 8 then ['\\', 'b']
  else if c.toNat = 12 then ['\\', 'f']
  else if c.toNat < 32 then
    ['\\', 'u', '0', '0', hexDigit (c.toNat / 16), hexDigit (c.toNat % 16)]
  else [c]

def quote (s : String) : String :=
  "\"" ++ String.ofList (s.toList.flatMap escapeChar) ++ "\""

mutual

/-- The text of a document. -/
def render (st : Style) : Json → String
  | .null => "null"
  | .bool true => "true"
  | .bool false => "false"
  | .num value => st.number value
  | .str value => quote value
  | .arr items => "[" ++ renderItems st items ++ "]"
  | .obj members => "\x7b" ++ renderMembers st members ++ "\x7d"

def renderItems (st : Style) : List Json → String
  | [] => ""
  | [item] => render st item
  | item :: next :: rest =>
      render st item ++ st.itemSeparator ++ renderItems st (next :: rest)

def renderMembers (st : Style) : List (String × Json) → String
  | [] => ""
  | [member] => renderMember st member
  | member :: next :: rest =>
      renderMember st member ++ st.itemSeparator ++
        renderMembers st (next :: rest)

def renderMember (st : Style) : String × Json → String
  | (key, value) => quote key ++ st.keySeparator ++ render st value

end

/-- `\u` and the four digits of one UTF-16 unit. -/
def unitEscape (unit : ℕ) : List Char := '\\' :: 'u' :: hexText 4 unit

/-- A character as `json.dumps` leaves it under `ensure_ascii`. -/
def asciiEscape (c : Char) : List Char :=
  if c.toNat < 0x7f then [c]
  else if c.toNat < 0x10000 then unitEscape c.toNat
  else
    unitEscape (0xd800 + (c.toNat - 0x10000) / 0x400) ++
      unitEscape (0xdc00 + (c.toNat - 0x10000) % 0x400)

def renderAscii (st : Style) (document : Json) : String :=
  String.ofList ((render st document).toList.flatMap asciiEscape)

def quoteSize (s : String) : Nat :=
  2 + String.utf8Len (s.toList.flatMap escapeChar)

mutual

/-- The number of bytes of the text of a document. -/
def size (st : Style) : Json → Nat
  | .null => 4
  | .bool true => 4
  | .bool false => 5
  | .num value => (st.number value).utf8ByteSize
  | .str value => quoteSize value
  | .arr items => 2 + itemsSize st items
  | .obj members => 2 + membersSize st members

def itemsSize (st : Style) : List Json → Nat
  | [] => 0
  | [item] => size st item
  | item :: next :: rest =>
      size st item + st.itemSeparator.utf8ByteSize + itemsSize st (next :: rest)

def membersSize (st : Style) : List (String × Json) → Nat
  | [] => 0
  | [member] => memberSize st member
  | member :: next :: rest =>
      memberSize st member + st.itemSeparator.utf8ByteSize +
        membersSize st (next :: rest)

def memberSize (st : Style) : String × Json → Nat
  | (key, value) =>
      quoteSize key + st.keySeparator.utf8ByteSize + size st value

end

theorem size_obj (st : Style) (member : String × Json) (members : Dict) :
    size st (.obj (member :: members)) + st.itemSeparator.utf8ByteSize =
      2 + (((member :: members).map Prod.fst).map quoteSize).sum +
        ((member :: members).map fun kv => size st kv.2).sum +
        (member :: members).length *
          (st.keySeparator.utf8ByteSize + st.itemSeparator.utf8ByteSize) := by
  induction members generalizing member with
  | nil =>
      obtain ⟨key, value⟩ := member
      simp only [size, membersSize, memberSize, List.map_cons, List.map_nil, List.sum_cons,
        List.sum_nil, List.length_cons, List.length_nil]
      omega
  | cons next rest ih =>
      obtain ⟨key, value⟩ := member
      have hrest := ih next
      simp only [size, membersSize, memberSize, List.map_cons, List.sum_cons,
        List.length_cons, Nat.add_mul, Nat.one_mul] at hrest ⊢
      omega

theorem utf8ByteSize_repr_le {n e : Nat} (he : 0 < e) (h : n < 10 ^ e) :
    (Nat.repr n).utf8ByteSize ≤ 4 * e := by
  have hbytes : ∀ cs : List Char, String.utf8Len cs ≤ 4 * cs.length := by
    intro cs
    induction cs with
    | nil => exact Nat.le_refl 0
    | cons c cs ih =>
        have hc := c.utf8Size_le_four
        simp only [String.utf8Len_cons, List.length_cons]
        omega
  have hlength := Nat.toDigits_length 10 n e he h
  have hdigits := hbytes (Nat.toDigits 10 n)
  rw [Nat.repr, String.utf8ByteSize_ofList]
  omega

theorem quote_utf8ByteSize (s : String) :
    (quote s).utf8ByteSize = quoteSize s := by
  have hquote : ("\"" : String).utf8ByteSize = 1 := by decide
  simp only [quote, quoteSize, String.utf8ByteSize_append,
    String.utf8ByteSize_ofList, hquote]
  omega

theorem escapeChar_hexDigit (n : Nat) (h : n < 16) :
    escapeChar (hexDigit n) = [hexDigit n] := by
  interval_cases n <;> decide

theorem quoteSize_hexText (width n : Nat) :
    quoteSize (String.ofList (hexText width n)) = 2 + width := by
  have hflat : (hexText width n).flatMap escapeChar = hexText width n := by
    induction width with
    | zero => rfl
    | succ width ih =>
        simp only [hexText, List.flatMap_cons, ih]
        rw [escapeChar_hexDigit _ (Nat.mod_lt _ (by decide))]
        rfl
  simp only [quoteSize, String.toList_ofList, hflat, utf8Len_hexText]

theorem quoteSize_append (s t : String) :
    quoteSize (s ++ t) + 2 = quoteSize s + quoteSize t := by
  simp only [quoteSize, String.toList_append, List.flatMap_append, String.utf8Len_append]
  omega

mutual

theorem render_utf8ByteSize (st : Style) :
    ∀ j : Json, (render st j).utf8ByteSize = size st j
  | .null => rfl
  | .bool true => rfl
  | .bool false => rfl
  | .num value => rfl
  | .str value => quote_utf8ByteSize value
  | .arr items => by
      have hopen : ("[" : String).utf8ByteSize = 1 := by decide
      have hclose : ("]" : String).utf8ByteSize = 1 := by decide
      simp only [render, size, String.utf8ByteSize_append, hopen, hclose,
        renderItems_utf8ByteSize st items]
      omega
  | .obj members => by
      have hopen : ("\x7b" : String).utf8ByteSize = 1 := by decide
      have hclose : ("\x7d" : String).utf8ByteSize = 1 := by decide
      simp only [render, size, String.utf8ByteSize_append, hopen, hclose,
        renderMembers_utf8ByteSize st members]
      omega

theorem renderItems_utf8ByteSize (st : Style) :
    ∀ items : List Json,
      (renderItems st items).utf8ByteSize = itemsSize st items
  | [] => by simp [renderItems, itemsSize]
  | [item] => by
      simp only [renderItems, itemsSize, render_utf8ByteSize st item]
  | item :: next :: rest => by
      simp only [renderItems, itemsSize, String.utf8ByteSize_append,
        render_utf8ByteSize st item, renderItems_utf8ByteSize st (next :: rest)]

theorem renderMembers_utf8ByteSize (st : Style) :
    ∀ members : List (String × Json),
      (renderMembers st members).utf8ByteSize = membersSize st members
  | [] => by simp [renderMembers, membersSize]
  | [member] => by
      simp only [renderMembers, membersSize,
        renderMember_utf8ByteSize st member]
  | member :: next :: rest => by
      simp only [renderMembers, membersSize, String.utf8ByteSize_append,
        renderMember_utf8ByteSize st member,
        renderMembers_utf8ByteSize st (next :: rest)]

theorem renderMember_utf8ByteSize (st : Style) :
    ∀ member : String × Json,
      (renderMember st member).utf8ByteSize = memberSize st member
  | (key, value) => by
      simp only [renderMember, memberSize, String.utf8ByteSize_append,
        quote_utf8ByteSize, render_utf8ByteSize st value]

end

theorem size_set_le (st : Style) (d : Dict) (k : String) (v : Json) :
    size st (.obj (d.set k v)) ≤ size st (.obj d) + quoteSize k +
      st.keySeparator.utf8ByteSize + size st v + st.itemSeparator.utf8ByteSize := by
  have hmembers : ∀ (member : String × Json) (members : Dict),
      membersSize st (member :: members) ≤ memberSize st member +
        st.itemSeparator.utf8ByteSize + membersSize st members := by
    intro member members
    cases members <;> simp only [membersSize] <;> omega
  have hset : membersSize st (d.set k v) ≤ membersSize st d + quoteSize k +
      st.keySeparator.utf8ByteSize + size st v + st.itemSeparator.utf8ByteSize := by
    induction d with
    | nil =>
        simp only [Dict.set, membersSize, memberSize]
        omega
    | cons member rest ih =>
        obtain ⟨key, old⟩ := member
        unfold Dict.set
        split_ifs with hkey hlt
        · have hnew := hmembers (k, v) rest
          have hold : membersSize st rest ≤ membersSize st ((key, old) :: rest) := by
            cases rest <;> simp only [membersSize] <;> omega
          simp only [memberSize] at hnew
          omega
        · have hnew := hmembers (k, v) ((key, old) :: rest)
          simp only [memberSize] at hnew
          omega
        · -- the member stays in front, with or without a separator behind it
          cases hrest : Dict.set rest k v with
          | nil =>
              rw [hrest] at ih
              cases rest <;> simp only [membersSize] <;> omega
          | cons next others =>
              rw [hrest] at ih
              cases rest with
              | nil =>
                  cases hrest
                  simp only [membersSize, memberSize]
                  omega
              | cons second more =>
                  simp only [membersSize] at ih ⊢
                  omega
  simp only [size]
  omega

/-! ## Sizes by bytes -/

/-- A string whose bytes all stand for themselves inside quotes. -/
def isPlain (s : String) : Bool :=
  s.toByteArray.data.toList.all fun byte =>
    decide (32 ≤ byte.toNat ∧ byte.toNat ≠ 34 ∧ byte.toNat ≠ 92)

theorem escapeChar_of_bytes {c : Char}
    (h : ∀ byte ∈ String.utf8EncodeChar c,
      32 ≤ byte.toNat ∧ byte.toNat ≠ 34 ∧ byte.toNat ≠ 92) :
    escapeChar c = [c] := by
  have hcode : 32 ≤ c.toNat ∧ c.toNat ≠ 34 ∧ c.toNat ≠ 92 := by
    by_cases hascii : c.toNat ≤ 127
    · -- an ASCII character is its own byte
      have hbyte := h (UInt8.ofNat c.toNat)
        (by simp [String.utf8EncodeChar, hascii])
      have hnat : (UInt8.ofNat c.toNat).toNat = c.toNat := by
        simp only [UInt8.toNat_ofNat']
        omega
      rwa [hnat] at hbyte
    · omega
  have hne : ∀ d : Char, d.toNat < 32 ∨ d.toNat = 34 ∨ d.toNat = 92 → c ≠ d := by
    rintro d hd rfl
    omega
  unfold escapeChar
  rw [if_neg (hne _ (by decide)), if_neg (hne _ (by decide)), if_neg (hne _ (by decide)),
    if_neg (hne _ (by decide)), if_neg (hne _ (by decide)), if_neg (by omega),
    if_neg (by omega), if_neg (by omega)]

theorem quoteSize_of_isPlain {s : String} (h : isPlain s = true) :
    quoteSize s = 2 + s.utf8ByteSize := by
  obtain ⟨cs, rfl⟩ : ∃ cs, s = String.ofList cs := ⟨s.toList, s.ofList_toList.symm⟩
  have hbytes : ∀ c ∈ cs, escapeChar c = [c] := by
    intro c hc
    refine escapeChar_of_bytes fun byte hbyte => ?_
    simp only [isPlain, List.all_eq_true, decide_eq_true_eq] at h
    refine h byte ?_
    simp only [String.toByteArray_ofList, List.utf8Encode, List.toList_data_toByteArray]
    exact List.mem_flatMap.mpr ⟨c, hc, hbyte⟩
  have hflat : cs.flatMap escapeChar = cs := by
    rw [List.flatMap_congr hbytes]
    simp
  simp only [quoteSize, String.toList_ofList, hflat, String.utf8ByteSize_ofList]

def byteQuoteSize (s : String) : Nat :=
  if isPlain s then 2 + s.utf8ByteSize else quoteSize s

theorem byteQuoteSize_eq (s : String) : byteQuoteSize s = quoteSize s := by
  unfold byteQuoteSize
  split
  · rename_i h
    exact (quoteSize_of_isPlain h).symm
  · rfl

mutual

def byteSize (st : Style) : Json → Nat
  | .null => 4
  | .bool true => 4
  | .bool false => 5
  | .num value => (st.number value).utf8ByteSize
  | .str value => byteQuoteSize value
  | .arr items => 2 + itemsByteSize st items
  | .obj members => 2 + membersByteSize st members

def itemsByteSize (st : Style) : List Json → Nat
  | [] => 0
  | [item] => byteSize st item
  | item :: next :: rest =>
      byteSize st item + st.itemSeparator.utf8ByteSize + itemsByteSize st (next :: rest)

def membersByteSize (st : Style) : List (String × Json) → Nat
  | [] => 0
  | [member] => memberByteSize st member
  | member :: next :: rest =>
      memberByteSize st member + st.itemSeparator.utf8ByteSize +
        membersByteSize st (next :: rest)

def memberByteSize (st : Style) : String × Json → Nat
  | (key, value) =>
      byteQuoteSize key + st.keySeparator.utf8ByteSize + byteSize st value

end

mutual

theorem byteSize_eq (st : Style) : ∀ j : Json, byteSize st j = size st j
  | .null => rfl
  | .bool true => rfl
  | .bool false => rfl
  | .num value => rfl
  | .str value => byteQuoteSize_eq value
  | .arr items => by simp only [byteSize, size, itemsByteSize_eq st items]
  | .obj members => by simp only [byteSize, size, membersByteSize_eq st members]

theorem itemsByteSize_eq (st : Style) :
    ∀ items : List Json, itemsByteSize st items = itemsSize st items
  | [] => rfl
  | [item] => by simp only [itemsByteSize, itemsSize, byteSize_eq st item]
  | item :: next :: rest => by
      simp only [itemsByteSize, itemsSize, byteSize_eq st item,
        itemsByteSize_eq st (next :: rest)]

theorem membersByteSize_eq (st : Style) :
    ∀ members : List (String × Json),
      membersByteSize st members = membersSize st members
  | [] => rfl
  | [member] => by simp only [membersByteSize, membersSize, memberByteSize_eq st member]
  | member :: next :: rest => by
      simp only [membersByteSize, membersSize, memberByteSize_eq st member,
        membersByteSize_eq st (next :: rest)]

theorem memberByteSize_eq (st : Style) :
    ∀ member : String × Json, memberByteSize st member = memberSize st member
  | (key, value) => by
      simp only [memberByteSize, memberSize, byteQuoteSize_eq, byteSize_eq st value]

end

end MindscapeLocalCore.Library.JsonText
