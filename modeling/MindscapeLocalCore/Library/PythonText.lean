import Mathlib.Data.List.DropRight
import Mathlib.Data.List.Infix
import Mathlib.Data.List.TakeWhile

/-!
Texts of Python: whitespace and what `str.strip` takes off both ends, how a text starts
and how it is split.
-/

namespace MindscapeLocalCore.Library.PythonText

/-- `str.isspace` of one character. -/
def isSpace (c : Char) : Bool :=
  let n := c.toNat
  (9 ≤ n && n ≤ 13) || (28 ≤ n && n ≤ 32) || n == 0x85 || n == 0xa0 || n == 0x1680 ||
    (0x2000 ≤ n && n ≤ 0x200a) || n == 0x2028 || n == 0x2029 || n == 0x202f ||
    n == 0x205f || n == 0x3000

/-- `str.strip`. -/
def strip (text : String) : String :=
  String.ofList
    ((text.toList.dropWhile isSpace).reverse.dropWhile isSpace).reverse

/-- `str.startswith`. -/
def startsWith (start text : String) : Bool := start.toList.isPrefixOf text.toList

/-- `str.split` at one character. -/
def split (separator : Char) (text : String) : List String :=
  (text.toList.splitOn separator).map String.ofList

/-- Nothing but whitespace. -/
def Blank (text : String) : Prop := ∀ c ∈ text.toList, isSpace c = true

instance (text : String) : Decidable (Blank text) :=
  List.decidableBAll (fun c => isSpace c = true) text.toList

/-- No whitespace at all. -/
def Unspaced (text : String) : Prop := ∀ c ∈ text.toList, isSpace c = false

instance (text : String) : Decidable (Unspaced text) :=
  List.decidableBAll (fun c => isSpace c = false) text.toList

theorem strip_of_unspaced {text : String} (h : Unspaced text) : strip text = text := by
  have hkept : ∀ chars : List Char, (∀ c ∈ chars, isSpace c = false) →
      chars.dropWhile isSpace = chars := by
    intro chars hchars
    cases chars with
    | nil => rfl
    | cons c chars => rw [List.dropWhile_cons, hchars c List.mem_cons_self]; rfl
  rw [strip, hkept _ h, hkept _ fun c hc => h c (List.mem_reverse.mp hc), List.reverse_reverse,
    String.ofList_toList]

theorem strip_eq_empty_of_blank {text : String} (h : Blank (strip text)) : strip text = "" := by
  have hchars : (strip text).toList =
      ((text.toList.dropWhile isSpace).reverse.dropWhile isSpace).reverse := by
    simp [strip]
  have hnil : (text.toList.dropWhile isSpace).reverse.dropWhile isSpace = [] := by
    by_contra hdrop
    have hhead := List.head_dropWhile_not isSpace hdrop
    have hmem : ((text.toList.dropWhile isSpace).reverse.dropWhile isSpace).head hdrop ∈
        (strip text).toList := by
      rw [hchars]
      exact List.mem_reverse.mpr (List.head_mem hdrop)
    have hspace := h _ hmem
    rw [hhead] at hspace
    exact absurd hspace Bool.false_ne_true
  rw [← String.toList_inj, hchars, hnil]
  rfl

theorem strip_eq_empty_iff {text : String} : strip text = "" ↔ Blank text := by
  have hempty : (strip text).toList =
      ((text.toList.dropWhile isSpace).reverse.dropWhile isSpace).reverse := by
    simp [strip]
  rw [← String.toList_inj, hempty]
  constructor
  · intro h c hc
    have hlast : (text.toList.dropWhile isSpace).reverse.dropWhile isSpace = [] := by
      simpa using h
    by_cases hdrop : text.toList.dropWhile isSpace = []
    · exact List.dropWhile_eq_nil_iff.mp hdrop c hc
    · have hhead := List.head_dropWhile_not isSpace hdrop
      have hall := List.dropWhile_eq_nil_iff.mp hlast _
        (List.mem_reverse.mpr (List.head_mem hdrop))
      rw [hhead] at hall
      exact absurd hall Bool.false_ne_true
  · intro h
    rw [List.dropWhile_eq_nil_iff.mpr h]
    rfl

theorem isSpace_of_visible {c : Char} (h : 33 ≤ c.toNat) (h' : c.toNat ≤ 126) :
    isSpace c = false := by
  simp only [isSpace, Bool.or_eq_false_iff, Bool.and_eq_false_iff, decide_eq_false_iff_not,
    beq_eq_false_iff_ne]
  omega

theorem not_blank_of_mem {text : String} {c : Char} (hmem : c ∈ text.toList)
    (hc : isSpace c = false) : ¬ Blank text := by
  intro hblank
  rw [hblank c hmem] at hc
  cases hc

end MindscapeLocalCore.Library.PythonText

/-!
Taking texts of Python apart at a character, and stripping them twice.
-/

namespace MindscapeLocalCore.Library.TextParts

open PythonText

/-- `str.partition` at one character: what is before it, whether it is there, and what is after. -/
def partition (separator : Char) (text : String) : String × Bool × String :=
  match text.toList.dropWhile (· ≠ separator) with
  | [] => (text, false, "")
  | _ :: rest => (String.ofList (text.toList.takeWhile (· ≠ separator)), true, String.ofList rest)

theorem strip_strip (text : String) : strip (strip text) = strip text := by
  have hchars : ∀ chars : List Char,
      let kept := ((chars.dropWhile isSpace).reverse.dropWhile isSpace).reverse
      ((kept.dropWhile isSpace).reverse.dropWhile isSpace).reverse = kept := by
    intro chars kept
    have hprefix : kept <+: chars.dropWhile isSpace := by
      rw [← List.reverse_suffix, List.reverse_reverse]
      exact List.dropWhile_suffix _
    have hfront : kept.dropWhile isSpace = kept := by
      cases hkept : kept with
      | nil => rfl
      | cons c rest =>
          obtain ⟨tail, htail⟩ := hprefix
          rw [hkept, List.cons_append] at htail
          have hhead := List.head?_dropWhile_not isSpace chars
          rw [← htail] at hhead
          have hc : isSpace c = false := hhead
          rw [List.dropWhile_cons, hc]
          rfl
    rw [hfront]
    show ((((chars.dropWhile isSpace).reverse.dropWhile isSpace).reverse).reverse.dropWhile
      isSpace).reverse = _
    rw [List.reverse_reverse, List.dropWhile_idempotent]
  rw [strip, strip, String.toList_ofList]
  exact congrArg String.ofList (hchars text.toList)

variable {separator : Char} {text before after : String}

theorem takeWhile_append_cons {before : List Char} {after : List Char} (h : separator ∉ before) :
    (before ++ separator :: after).takeWhile (· ≠ separator) = before ∧
      (before ++ separator :: after).dropWhile (· ≠ separator) = separator :: after := by
  induction before with
  | nil =>
      rw [List.nil_append, List.takeWhile_cons, List.dropWhile_cons]
      simp
  | cons c before ih =>
      have hne : c ≠ separator := fun hc => h (hc ▸ List.mem_cons_self)
      obtain ⟨htake, hdrop⟩ := ih fun hmem => h (List.mem_cons_of_mem c hmem)
      rw [List.cons_append, List.takeWhile_cons, List.dropWhile_cons, htake, hdrop]
      simp [hne]

theorem append_separator_inj {before before' after after' : List Char} (h : separator ∉ before)
    (h' : separator ∉ before') (hsame : before ++ separator :: after = before' ++ separator :: after') :
    before = before' ∧ after = after' := by
  obtain ⟨htake, hdrop⟩ := @takeWhile_append_cons separator before after h
  obtain ⟨htake', hdrop'⟩ := @takeWhile_append_cons separator before' after' h'
  rw [hsame] at htake hdrop
  exact ⟨htake.symm.trans htake', (List.cons.inj (hdrop.symm.trans hdrop')).2⟩

theorem suffix_separator {part before after after' : List Char} (hpart : separator ∉ part)
    (hbefore : separator ∉ before)
    (h : part ++ separator :: after <:+ before ++ separator :: after') :
    part <:+ before ∧ after = after' ∨ part ++ separator :: after <:+ after' := by
  induction before with
  | nil =>
      rcases List.suffix_cons_iff.mp h with hsame | hsuffix
      · obtain ⟨rfl, rfl⟩ := append_separator_inj hpart List.not_mem_nil hsame
        exact .inl ⟨List.suffix_rfl, rfl⟩
      · exact .inr hsuffix
  | cons c before ih =>
      rcases List.suffix_cons_iff.mp h with hsame | hsuffix
      · obtain ⟨rfl, rfl⟩ := append_separator_inj hpart hbefore hsame
        exact .inl ⟨List.suffix_rfl, rfl⟩
      · rcases ih (fun hmem => hbefore (List.mem_cons_of_mem c hmem)) hsuffix with hfirst | hlater
        · exact .inl ⟨hfirst.1.trans (List.suffix_cons c before), hfirst.2⟩
        · exact .inr hlater

theorem partition_eq_true :
    partition separator text = (before, true, after) ↔
      text.toList = before.toList ++ separator :: after.toList ∧ separator ∉ before.toList := by
  rw [partition]
  constructor
  · intro h
    split at h
    · cases h
    · rename_i c rest hdrop
      obtain ⟨rfl, hrest⟩ := Prod.mk.inj h
      obtain ⟨-, rfl⟩ := Prod.mk.inj hrest
      have hc : c = separator := by
        have hhead := List.head?_dropWhile_not (fun c => decide (c ≠ separator)) text.toList
        rw [hdrop] at hhead
        simpa using hhead
      rw [String.toList_ofList, String.toList_ofList, ← hc]
      refine ⟨?_, fun hmem => ?_⟩
      · have happend : text.toList.takeWhile (fun c => decide (c ≠ separator)) ++
            text.toList.dropWhile (fun c => decide (c ≠ separator)) = text.toList :=
          List.takeWhile_append_dropWhile
        rw [hdrop, hc] at happend
        rw [hc, happend]
      · rw [hc] at hmem
        have hkept := List.mem_takeWhile_imp hmem
        simp at hkept
  · rintro ⟨htext, habsent⟩
    obtain ⟨htake, hdrop⟩ := @takeWhile_append_cons separator before.toList after.toList habsent
    rw [htext, hdrop, htake]
    simp only [String.ofList_toList]

end MindscapeLocalCore.Library.TextParts

/-!
The words of a text, and the text that has one blank between its words.
-/

namespace MindscapeLocalCore.Library.TextWords

open PythonText

/-- `text.split()` -/
def words (text : List Char) : List (List Char) :=
  (text.splitOnP isSpace).filter fun word => !word.isEmpty

/-- `" ".join(words)` -/
def joinWords (parts : List (List Char)) : List Char := List.intercalate [' '] parts

/-- `" ".join(text.split())` -/
def collapse (text : List Char) : List Char := joinWords (words text)

variable {text word : List Char} {parts : List (List Char)}

theorem forall_mem_splitOnP (h : word ∈ text.splitOnP isSpace) : ∀ c ∈ word, isSpace c = false := by
  induction text generalizing word with
  | nil =>
      rw [List.splitOnP_nil, List.mem_singleton] at h
      rw [h]
      exact fun _ h => absurd h List.not_mem_nil
  | cons c rest ih =>
      rw [List.splitOnP_cons_eq_if_modifyHead] at h
      split at h
      · rcases List.mem_cons.mp h with rfl | h
        · exact fun _ h => absurd h List.not_mem_nil
        · exact ih h
      · rename_i hc
        cases hsplit : rest.splitOnP isSpace with
        | nil =>
            rw [hsplit] at h
            cases h
        | cons first others =>
            rw [hsplit, List.modifyHead_cons] at h
            rcases List.mem_cons.mp h with rfl | h
            · intro d hd
              rcases List.mem_cons.mp hd with rfl | hd
              · exact Bool.eq_false_iff.mpr hc
              · exact ih (hsplit ▸ List.mem_cons_self) d hd
            · exact ih (hsplit ▸ List.mem_cons_of_mem _ h)

theorem word_of_mem_words (h : word ∈ words text) : word ≠ [] ∧ ∀ c ∈ word, isSpace c = false := by
  obtain ⟨hmem, hkept⟩ := List.mem_filter.mp h
  refine ⟨fun hnil => ?_, forall_mem_splitOnP hmem⟩
  rw [hnil] at hkept
  cases hkept

theorem words_joinWords (h : ∀ word ∈ parts, word ≠ [] ∧ ∀ c ∈ word, isSpace c = false) :
    words (joinWords parts) = parts := by
  induction parts with
  | nil => rfl
  | cons word rest ih =>
      obtain ⟨hword, hunspaced⟩ := h word List.mem_cons_self
      have hkept : (!word.isEmpty) = true := by
        cases word with
        | nil => exact absurd rfl hword
        | cons c rest => rfl
      cases rest with
      | nil =>
          rw [joinWords, List.intercalate_singleton, words, List.splitOnP_eq_singleton hunspaced,
            List.filter_cons_of_pos (p := fun word : List Char => !word.isEmpty) hkept]
          rfl
      | cons next rest =>
          have hrest := ih fun word hmem => h word (List.mem_cons_of_mem _ hmem)
          rw [joinWords, List.intercalate_cons_cons, List.append_assoc, List.singleton_append, words,
            List.splitOnP_append_cons_of_forall_mem hunspaced ' ' (by decide),
            List.filter_cons_of_pos (p := fun word : List Char => !word.isEmpty) hkept]
          exact congrArg (word :: ·) hrest

theorem collapse_collapse (text : List Char) : collapse (collapse text) = collapse text :=
  congrArg joinWords (words_joinWords fun _ => word_of_mem_words)

end MindscapeLocalCore.Library.TextWords

/-!
A text cut into the matches of a pattern and the characters between them, as `re.sub` sees it, and
the text that the replacements make of it.
-/

namespace MindscapeLocalCore.Library.TextPieces

open PythonText

variable {α : Type*}

/-- The text behind the first `skip` characters, cut into matches and other characters. A reader
gives a match at the beginning of a text, and its length. -/
def pieces (reader : List Char → Option (α × ℕ)) : ℕ → List Char → List (Char ⊕ α)
  | _, [] => []
  | skip + 1, _ :: rest => pieces reader skip rest
  | 0, c :: rest =>
      match reader (c :: rest) with
      | some (value, length) => .inr value :: pieces reader (length - 1) rest
      | none => .inl c :: pieces reader 0 rest

/-- The pieces put together again, with a replacement for each match; none where one raises. -/
def assemble (replace : α → Option (List Char)) : List (Char ⊕ α) → Option (List Char)
  | [] => some []
  | .inl c :: rest => (assemble replace rest).map (c :: ·)
  | .inr value :: rest => do
      let text ← replace value
      let after ← assemble replace rest
      return text ++ after

/-- `re.sub` with a replacement that may raise. -/
def subWith (reader : List Char → Option (α × ℕ)) (replace : α → Option (List Char))
    (text : List Char) : Option (List Char) :=
  assemble replace (pieces reader 0 text)

/-- `re.sub`, where the reader gives the replacement. -/
def sub (reader : List Char → Option (List Char × ℕ)) (text : List Char) : List Char :=
  (pieces reader 0 text).flatMap (Sum.elim (fun c => [c]) id)

/-- `text.strip()` -/
def trim (text : List Char) : List Char :=
  ((text.dropWhile isSpace).reverse.dropWhile isSpace).reverse

variable {reader : List Char → Option (α × ℕ)} {replace : α → Option (List Char)}
  {text before after rest : List Char} {c : Char} {value : α} {skip length : ℕ}

/-! ### Pieces -/

theorem pieces_eq_drop : pieces reader skip text = pieces reader 0 (text.drop skip) := by
  induction text generalizing skip with
  | nil => rw [List.drop_nil, pieces, pieces]
  | cons c rest ih =>
      cases skip with
      | zero => rfl
      | succ skip =>
          rw [pieces, List.drop_succ_cons]
          exact ih

theorem pieces_of_read (h : reader (c :: rest) = some (value, length + 1)) :
    pieces reader 0 (c :: rest) = .inr value :: pieces reader 0 (rest.drop length) := by
  rw [pieces, h]
  exact congrArg (Sum.inr value :: ·) pieces_eq_drop

/-- No match begins in the first part of the text, with the other part behind it. -/
def Clear (reader : List Char → Option (α × ℕ)) (before after : List Char) : Prop :=
  ∀ c rest, c :: rest <:+ before → reader (c :: rest ++ after) = none

theorem pieces_append (h : Clear reader before after) :
    pieces reader 0 (before ++ after) = before.map .inl ++ pieces reader 0 after := by
  induction before with
  | nil => rfl
  | cons c before ih =>
      have hnone : reader (c :: (before ++ after)) = none := h c before List.suffix_rfl
      rw [List.cons_append, pieces, hnone, List.map_cons, List.cons_append]
      refine congrArg (Sum.inl c :: ·) (ih fun d rest hsuffix => ?_)
      exact h d rest (hsuffix.trans (List.suffix_cons c before))

theorem pieces_of_clear (h : Clear reader before []) :
    pieces reader 0 before = before.map .inl := by
  have happend := pieces_append h
  rw [List.append_nil] at happend
  rw [happend, pieces, List.append_nil]

/-! ### Replacements -/

theorem assemble_append_chars {others : List (Char ⊕ α)} :
    assemble replace (before.map .inl ++ others) = (assemble replace others).map (before ++ ·) := by
  induction before with
  | nil =>
      rw [List.map_nil, List.nil_append]
      exact Option.map_id'.symm
  | cons c before ih =>
      rw [List.map_cons, List.cons_append, assemble, ih, Option.map_map]
      rfl

theorem subWith_between {middle : List Char} (hmiddle : middle ≠ [])
    (hbefore : Clear reader before (middle ++ after))
    (hread : reader (middle ++ after) = some (value, middle.length))
    (hafter : Clear reader after []) :
    subWith reader replace (before ++ (middle ++ after)) =
      (replace value).map fun text => before ++ (text ++ after) := by
  obtain ⟨c, middle, rfl⟩ := List.exists_cons_of_ne_nil hmiddle
  rw [List.cons_append, List.length_cons] at hread
  have hpieces : pieces reader 0 (c :: middle ++ after) = .inr value :: after.map .inl := by
    rw [List.cons_append, pieces_of_read hread, List.drop_left, pieces_of_clear hafter]
  have hchars : assemble replace (after.map .inl) = some after := by
    have h := @assemble_append_chars α replace after []
    rw [List.append_nil] at h
    rw [h, assemble, Option.map_some, List.append_nil]
  rw [subWith, pieces_append hbefore, hpieces, assemble_append_chars, assemble, hchars]
  cases replace value with
  | none => rfl
  | some text => rfl

variable {writer : List Char → Option (List Char × ℕ)}

theorem sub_of_clear (h : Clear writer text []) : sub writer text = text := by
  rw [sub, pieces_of_clear h, List.flatMap_map]
  exact List.flatMap_singleton' text

theorem sub_between {middle new : List Char} (hmiddle : middle ≠ [])
    (hbefore : Clear writer before (middle ++ after))
    (hread : writer (middle ++ after) = some (new, middle.length))
    (hafter : Clear writer after []) :
    sub writer (before ++ (middle ++ after)) = before ++ (new ++ after) := by
  obtain ⟨c, middle, rfl⟩ := List.exists_cons_of_ne_nil hmiddle
  rw [List.cons_append, List.length_cons] at hread
  have hchars : ∀ text : List Char,
      (text.map Sum.inl).flatMap (Sum.elim (fun c => [c]) (id : List Char → List Char)) = text := by
    intro text
    rw [List.flatMap_map]
    exact List.flatMap_singleton' text
  rw [sub, pieces_append hbefore, List.cons_append, pieces_of_read hread, List.drop_left,
    pieces_of_clear hafter, List.flatMap_append, hchars, List.flatMap_cons, hchars]
  rfl

/-! ### Whitespace at the ends -/

theorem exists_trim (text : List Char) : ∃ left right, text = left ++ (trim text ++ right) ∧
    (∀ c ∈ left, isSpace c = true) ∧ ∀ c ∈ right, isSpace c = true := by
  refine ⟨text.takeWhile isSpace, ((text.dropWhile isSpace).reverse.takeWhile isSpace).reverse,
    ?_, fun c => List.mem_takeWhile_imp, fun c hc => List.mem_takeWhile_imp (List.mem_reverse.mp hc)⟩
  rw [trim, ← List.reverse_append, List.takeWhile_append_dropWhile, List.reverse_reverse,
    List.takeWhile_append_dropWhile]

theorem trim_of_ends {last : Char} (hc : isSpace c = false) (hlast : isSpace last = false)
    (hends : (c :: rest).getLast? = some last) : trim (c :: rest) = c :: rest := by
  rw [trim, List.dropWhile_cons, hc]
  show ((c :: rest).reverse.dropWhile isSpace).reverse = c :: rest
  cases hreverse : (c :: rest).reverse with
  | nil => cases List.reverse_eq_nil_iff.mp hreverse
  | cons d others =>
      have hd : d = last := by
        rw [← List.head?_reverse, hreverse] at hends
        exact Option.some.inj hends
      rw [List.dropWhile_cons, hd, hlast]
      show (last :: others).reverse = c :: rest
      rw [← hd, ← hreverse, List.reverse_reverse]

theorem trim_of_unspaced (h : ∀ c ∈ text, isSpace c = false) : trim text = text := by
  cases text with
  | nil => rfl
  | cons c rest =>
      have hlast := List.getLast?_eq_some_getLast (List.cons_ne_nil c rest)
      exact trim_of_ends (h c List.mem_cons_self) (h _ (List.getLast_mem _)) hlast

theorem trim_between {left right : List Char} (hleft : ∀ c ∈ left, isSpace c = true)
    (hright : ∀ c ∈ right, isSpace c = true) :
    trim (left ++ (text ++ right)) = trim text := by
  have hdrop : (left ++ (text ++ right)).dropWhile isSpace = (text ++ right).dropWhile isSpace := by
    rw [List.dropWhile_append, List.dropWhile_eq_nil_iff.mpr hleft]
    rfl
  have hreverse : ∀ c ∈ right.reverse, isSpace c = true :=
    fun c hc => hright c (List.mem_reverse.mp hc)
  rw [trim, trim, hdrop]
  by_cases hblank : text.dropWhile isSpace = []
  · rw [List.dropWhile_append, hblank, List.isEmpty_nil, if_pos rfl,
      List.dropWhile_eq_nil_iff.mpr hright]
  · have hempty : (text.dropWhile isSpace).isEmpty = false := by
      rw [List.isEmpty_eq_false_iff]
      exact hblank
    rw [List.dropWhile_append, hempty, if_neg Bool.false_ne_true, List.reverse_append,
      List.dropWhile_append, List.dropWhile_eq_nil_iff.mpr hreverse]
    rfl

end MindscapeLocalCore.Library.TextPieces

/-!
Patterns of characters and runs of whitespace, and the scan of a text for everything that a reader
finds in it.
-/

namespace MindscapeLocalCore.Library.TextScan

open PythonText

/-- A part of a pattern. -/
inductive Piece
  | char (c : Char)
  | spaces
  | someSpaces
  deriving DecidableEq

def literal (text : String) : List Piece := text.toList.map .char

variable {α : Type*} (same : Char → Char → Bool)

/-- What is left of a text after the pattern. A run of whitespace is taken whole: no pattern here
has a whitespace character after one. -/
def matchPieces : List Piece → List Char → Option (List Char)
  | [], rest => some rest
  | .char c :: pieces, d :: rest => if same c d then matchPieces pieces rest else none
  | .spaces :: pieces, rest => matchPieces pieces (rest.dropWhile isSpace)
  | .someSpaces :: pieces, d :: rest =>
      if isSpace d then matchPieces pieces (rest.dropWhile isSpace) else none
  | .char _ :: _, [] => none
  | .someSpaces :: _, [] => none

/-- `re.search` finds the pattern. -/
def occurs (pieces : List Piece) (text : String) : Bool :=
  text.toList.tails.any fun rest => (matchPieces same pieces rest).isSome

/-- `re.findall` with a reader of one match, which gives the match and what is left after it. -/
def findAll (reader : List Char → Option (α × List Char)) : ℕ → List Char → List α
  | 0, _ => []
  | _ + 1, [] => []
  | fuel + 1, c :: rest =>
      match reader (c :: rest) with
      | some (found, after) => found :: findAll reader fuel after
      | none => findAll reader fuel rest

def findAllIn (reader : List Char → Option (α × List Char)) (text : String) : List α :=
  findAll reader text.toList.length text.toList

/-- `text.find(c)` -/
def find (c : Char) (text : List Char) : Option ℕ := text.findIdx? (· = c)

/-- `text.rfind(c)` -/
def rfind (c : Char) (text : List Char) : Option ℕ :=
  (find c text.reverse).map fun i => text.length - 1 - i

def run (keep : Char → Bool) (text : List Char) : Option (List Char × List Char) :=
  match text.takeWhile keep with
  | [] => none
  | found => some (found, text.dropWhile keep)

theorem run_append {keep : Char → Bool} {found rest : List Char} (hne : found ≠ [])
    (hfound : ∀ c ∈ found, keep c = true) (hrest : ∀ c, rest.head? = some c → keep c = false) :
    run keep (found ++ rest) = some (found, rest) := by
  have hstop : rest.takeWhile keep = [] ∧ rest.dropWhile keep = rest := by
    cases rest with
    | nil => exact ⟨rfl, rfl⟩
    | cons c rest =>
        rw [List.takeWhile_cons, List.dropWhile_cons, hrest c rfl]
        exact ⟨rfl, rfl⟩
  rw [run, List.takeWhile_append_of_pos hfound, List.dropWhile_append_of_pos hfound, hstop.1,
    hstop.2, List.append_nil]
  cases found with
  | nil => exact absurd rfl hne
  | cons c found => rfl

theorem eq_of_run {keep : Char → Bool} {text found rest : List Char}
    (h : run keep text = some (found, rest)) :
    text = found ++ rest ∧ found ≠ [] ∧ ∀ c ∈ found, keep c = true := by
  rw [run] at h
  split at h
  · cases h
  · rename_i hne
    obtain ⟨rfl, rfl⟩ := Prod.mk.inj (Option.some.inj h)
    exact ⟨List.takeWhile_append_dropWhile.symm, hne, fun c hc => List.mem_takeWhile_imp hc⟩

/-! ### Letters -/

/-- What a character is under `re.IGNORECASE`, as far as ASCII letters go: four other characters
are the same as one of them. -/
def foldCase (c : Char) : Char :=
  if c.toNat = 0x130 ∨ c.toNat = 0x131 then 'i'
  else if c.toNat = 0x17f then 's'
  else if c.toNat = 0x212a then 'k'
  else c.toLower

/-- Two characters that are the same under `re.IGNORECASE`. -/
def sameLetter (c d : Char) : Bool := foldCase c = foldCase d

/-- The characters that `lower` gives, as far as a word of ASCII letters may have them. -/
def lowerChar (c : Char) : List Char :=
  if c.toNat = 0x130 then ['i', Char.ofNat 0x307]
  else if c.toNat = 0x212a then ['k']
  else [c.toLower]

/-! ### Matches in a text -/

/-- A match of `re.finditer`, with its span. -/
structure Found (α : Type*) where
  start : ℕ
  value : α
  stop : ℕ

/-- `re.finditer` with a reader of one match and its length, from a position on; the characters of
the match before are skipped. -/
def finditer (reader : List Char → Option (α × ℕ)) : ℕ → ℕ → List Char → List (Found α)
  | _, _, [] => []
  | position, skip + 1, _ :: rest => finditer reader (position + 1) skip rest
  | position, 0, c :: rest =>
      match reader (c :: rest) with
      | some (value, length) =>
          ⟨position, value, position + length⟩ :: finditer reader (position + 1) (length - 1) rest
      | none => finditer reader (position + 1) 0 rest

theorem exists_of_mem_finditer {reader : List Char → Option (α × ℕ)} {position skip : ℕ}
    {text : List Char} {found : Found α} (h : found ∈ finditer reader position skip text) :
    ∃ rest length, reader rest = some (found.value, length) := by
  induction text generalizing position skip with
  | nil =>
      rw [finditer] at h
      cases h
  | cons c rest ih =>
      cases skip with
      | succ skip =>
          rw [finditer] at h
          exact ih h
      | zero =>
          rw [finditer] at h
          cases hread : reader (c :: rest) with
          | none =>
              rw [hread] at h
              exact ih h
          | some pair =>
              rw [hread] at h
              rcases List.mem_cons.mp h with rfl | h
              · exact ⟨c :: rest, pair.2, hread⟩
              · exact ih h

/-- `text.rstrip(chars)` -/
def rstrip (chars : List Char) (text : List Char) : List Char :=
  (text.reverse.dropWhile (· ∈ chars)).reverse

theorem rstrip_append {chars text suffix : List Char} (h : ∀ c ∈ text, c ∉ chars)
    (hsuffix : ∀ c ∈ suffix, c ∈ chars) : rstrip chars (text ++ suffix) = text := by
  have hdropped : suffix.reverse.dropWhile (· ∈ chars) = [] :=
    List.dropWhile_eq_nil_iff.mpr fun c hc =>
      decide_eq_true (hsuffix c (List.mem_reverse.mp hc))
  have hkept : text.reverse.dropWhile (· ∈ chars) = text.reverse := by
    cases hreverse : text.reverse with
    | nil => rfl
    | cons c rest =>
        have hmem : c ∈ text := List.mem_reverse.mp (hreverse ▸ List.mem_cons_self)
        rw [List.dropWhile_cons, decide_eq_false (h c hmem)]
        rfl
  rw [rstrip, List.reverse_append, List.dropWhile_append, hdropped]
  show (text.reverse.dropWhile (· ∈ chars)).reverse = text
  rw [hkept, List.reverse_reverse]

end MindscapeLocalCore.Library.TextScan
