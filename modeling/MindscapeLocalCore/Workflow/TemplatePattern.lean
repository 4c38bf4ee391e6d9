import Mathlib.Data.List.Basic
import MindscapeLocalCore.Library.PythonText

/-!
`WORKFLOW_TEMPLATE_PATTERN`, matched from left to right: which part of a text is a
reference, and what is left when the text is cut between two of them.
-/

namespace MindscapeLocalCore.Workflow.TemplatePattern

open Library

/-- `\w`: the letters and digits of all scripts, and the underscore. -/
structure WordCharacters where
  isWord : Char → Bool
  dot : isWord '.' = false

/-- `[^.\s]` -/
def isSegment (c : Char) : Bool := c ≠ '.' && !PythonText.isSpace c

/-- `[^.\s]+`, and the text behind it. -/
def segment (text : List Char) : Option (List Char × List Char) :=
  match text.takeWhile isSegment with
  | [] => none
  | c :: taken => some (c :: taken, text.dropWhile isSegment)

/-- `\.([^.\s]+)` -/
def dotSegment : List Char → Option (List Char × List Char)
  | '.' :: rest => segment rest
  | _ => none

structure Match where
  kind : List Char
  first : List Char
  second : Option (List Char)
  third : Option (List Char)
deriving DecidableEq

def dotted : Option (List Char) → List Char
  | none => []
  | some taken => '.' :: taken

/-- `match.group(0)` -/
def Match.chars (m : Match) : List Char :=
  '$' :: m.kind ++ '.' :: m.first ++ dotted m.second ++ dotted m.third

variable (words : WordCharacters)

/-- The match that begins with the text. Where the third group does not match, neither does
the fourth. -/
def matchAt : List Char → Option Match
  | '$' :: rest =>
      let kind := rest.takeWhile words.isWord
      if kind = [] then none
      else
        match dotSegment (rest.dropWhile words.isWord) with
        | none => none
        | some (first, rest) =>
            match dotSegment rest with
            | none => some { kind := kind, first := first, second := none, third := none }
            | some (second, rest) =>
                match dotSegment rest with
                | none =>
                    some { kind := kind, first := first, second := some second, third := none }
                | some (third, _) =>
                    some { kind := kind, first := first, second := some second,
                           third := some third }
  | _ => none

inductive Token where
  | character (c : Char)
  | reference (m : Match)
deriving DecidableEq

def Token.chars : Token → List Char
  | .character c => [c]
  | .reference m => m.chars

/-- The text behind the first `skip` characters, cut into matches and the rest. -/
def tokensFrom : ℕ → List Char → List Token
  | _, [] => []
  | skip + 1, _ :: rest => tokensFrom skip rest
  | 0, c :: rest =>
      match matchAt words (c :: rest) with
      | none => .character c :: tokensFrom 0 rest
      | some m => .reference m :: tokensFrom (m.chars.length - 1) rest
termination_by structural _ text => text

/-- The text as `sub` sees it. -/
def tokens (text : List Char) : List Token := tokensFrom words 0 text

section Segments

variable {text taken rest more : List Char}

/-- The text does not go on with a segment character. -/
def Stops (rest : List Char) : Prop := ∀ c, rest.head? = some c → isSegment c = false

theorem span_eq {p : Char → Bool} (htaken : ∀ c ∈ taken, p c = true)
    (hrest : ∀ c, rest.head? = some c → p c = false) :
    (taken ++ rest).takeWhile p = taken ∧ (taken ++ rest).dropWhile p = rest := by
  induction taken with
  | nil =>
      cases rest with
      | nil => exact ⟨rfl, rfl⟩
      | cons c rest =>
          have hc := hrest c rfl
          rw [List.nil_append, List.takeWhile_cons, List.dropWhile_cons, hc]
          exact ⟨rfl, rfl⟩
  | cons c taken ih =>
      obtain ⟨htake, hdrop⟩ := ih fun d hd => htaken d (List.mem_cons_of_mem c hd)
      rw [List.cons_append, List.takeWhile_cons, List.dropWhile_cons,
        htaken c List.mem_cons_self]
      exact ⟨congrArg (List.cons c) htake, hdrop⟩

theorem span_spec (p : Char → Bool) (text : List Char) :
    text = text.takeWhile p ++ text.dropWhile p ∧ (∀ c ∈ text.takeWhile p, p c = true) ∧
      ∀ c, (text.dropWhile p).head? = some c → p c = false := by
  induction text with
  | nil => exact ⟨rfl, nofun, nofun⟩
  | cons c text ih =>
      obtain ⟨hsplit, htake, hdrop⟩ := ih
      rw [List.takeWhile_cons, List.dropWhile_cons]
      by_cases hc : p c = true
      · rw [if_pos hc, if_pos hc]
        exact ⟨congrArg (List.cons c) hsplit, List.forall_mem_cons.mpr ⟨hc, htake⟩, hdrop⟩
      · rw [if_neg hc, if_neg hc]
        refine ⟨rfl, nofun, fun d hd => ?_⟩
        rw [← Option.some.inj hd]
        exact eq_false_of_ne_true hc

def IsSegment (taken : List Char) : Prop := taken ≠ [] ∧ ∀ c ∈ taken, isSegment c = true

theorem segment_eq_some_iff :
    segment text = some (taken, rest) ↔ text = taken ++ rest ∧ IsSegment taken ∧ Stops rest := by
  obtain ⟨hsplit, htake, hdrop⟩ := span_spec isSegment text
  constructor
  · intro h
    rw [segment] at h
    split at h
    · cases h
    · rename_i c kept heq
      obtain ⟨rfl, rfl⟩ := Prod.mk.inj (Option.some.inj h)
      rw [heq] at hsplit htake
      exact ⟨hsplit, ⟨List.cons_ne_nil _ _, htake⟩, hdrop⟩
  · rintro ⟨rfl, ⟨hne, hall⟩, hstops⟩
    obtain ⟨htakes, hdrops⟩ := span_eq hall hstops
    rw [segment, htakes, hdrops]
    cases taken with
    | nil => exact absurd rfl hne
    | cons c taken => rfl

theorem segment_eq_none_iff : segment text = none ↔ Stops text := by
  cases text with
  | nil => exact iff_of_true rfl nofun
  | cons c text =>
      rw [segment, List.takeWhile_cons]
      by_cases hc : isSegment c = true
      · rw [if_pos hc]
        refine iff_of_false nofun fun hstops => ?_
        rw [hstops c rfl] at hc
        cases hc
      · rw [if_neg hc]
        refine iff_of_true rfl fun d hd => ?_
        rw [← Option.some.inj hd]
        exact eq_false_of_ne_true hc

theorem dotSegment_eq_some_iff :
    dotSegment text = some (taken, rest) ↔
      text = '.' :: taken ++ rest ∧ IsSegment taken ∧ Stops rest := by
  rw [dotSegment.eq_def]
  split
  · rename_i behind
    rw [segment_eq_some_iff, List.cons_append, List.cons.injEq]
    exact and_congr_left' (and_iff_right rfl).symm
  · rename_i hdot
    refine iff_of_false nofun ?_
    rintro ⟨rfl, -⟩
    exact hdot _ rfl

theorem dotSegment_cut (h : dotSegment (text ++ more) = none) : dotSegment text = none := by
  cases hdot : dotSegment text with
  | none => rfl
  | some pair =>
      obtain ⟨taken, rest⟩ := pair
      obtain ⟨rfl, ⟨hne, hall⟩, -⟩ := dotSegment_eq_some_iff.mp hdot
      cases taken with
      | nil => exact absurd rfl hne
      | cons c taken =>
          have hstops : Stops (c :: taken ++ rest ++ more) := segment_eq_none_iff.mp h
          have hc := hstops c rfl
          rw [hall c List.mem_cons_self] at hc
          cases hc

theorem Stops.cut (h : Stops (rest ++ more)) : Stops rest := by
  intro c hc
  cases rest with
  | nil => cases hc
  | cons d rest => exact h c hc

end Segments

section Matches

variable {words} {m : Match} {text rest more : List Char}

/-- The match is as long as the pattern allows before `rest`. -/
structure IsMatch (words : WordCharacters) (m : Match) (rest : List Char) : Prop where
  kind : m.kind ≠ [] ∧ ∀ c ∈ m.kind, words.isWord c = true
  first : IsSegment m.first
  second : ∀ taken, m.second = some taken → IsSegment taken
  third : ∀ taken, m.third = some taken → IsSegment taken ∧ m.second ≠ none
  stops : Stops rest
  full : m.third = none → dotSegment rest = none

theorem stops_dot : Stops ('.' :: rest) := by
  intro c hc
  rw [← Option.some.inj hc]
  rfl

theorem matchAt_sound (h : matchAt words text = some m) :
    ∃ rest, text = m.chars ++ rest ∧ IsMatch words m rest := by
  rw [matchAt.eq_def] at h
  split at h
  · rename_i behind
    obtain ⟨hsplit, hword, -⟩ := span_spec words.isWord behind
    simp only at h
    generalize behind.takeWhile words.isWord = kind at h hsplit hword
    generalize behind.dropWhile words.isWord = dropped at h hsplit
    subst hsplit
    split at h
    · cases h
    · rename_i hkind
      split at h
      · cases h
      · rename_i first rest hfirst
        obtain ⟨hbehind, hsegment, hstops⟩ := dotSegment_eq_some_iff.mp hfirst
        split at h
        · rename_i hnone
          cases h
          refine ⟨rest, ?_, ⟨hkind, hword⟩, hsegment, nofun, nofun, hstops, fun _ => hnone⟩
          rw [hbehind]
          simp [Match.chars, dotted]
        · rename_i second rest' hsecond
          obtain ⟨hrest, hsegment', hstops'⟩ := dotSegment_eq_some_iff.mp hsecond
          split at h
          · rename_i hnone
            cases h
            refine ⟨rest', ?_, ⟨hkind, hword⟩, hsegment, ?_, nofun, hstops', fun _ => hnone⟩
            · rw [hbehind, hrest]
              simp [Match.chars, dotted]
            · rintro taken htaken
              cases htaken
              exact hsegment'
          · rename_i third rest'' hthird
            obtain ⟨hrest', hsegment'', hstops''⟩ := dotSegment_eq_some_iff.mp hthird
            cases h
            refine ⟨rest'', ?_, ⟨hkind, hword⟩, hsegment, ?_, ?_, hstops'', nofun⟩
            · rw [hbehind, hrest, hrest']
              simp [Match.chars, dotted]
            · rintro taken htaken
              cases htaken
              exact hsegment'
            · rintro taken htaken
              cases htaken
              exact ⟨hsegment'', nofun⟩
  · cases h

theorem matchAt_complete (h : IsMatch words m rest) : matchAt words (m.chars ++ rest) = some m := by
  obtain ⟨kind, first, second, third⟩ := m
  obtain ⟨⟨hkind, hword⟩, hfirst, hsecond, hthird, hstops, hfull⟩ := h
  have hbehind : ∀ behind, (kind ++ '.' :: behind).takeWhile words.isWord = kind ∧
      (kind ++ '.' :: behind).dropWhile words.isWord = '.' :: behind := by
    intro behind
    refine span_eq hword fun c hc => ?_
    rw [← Option.some.inj hc]
    exact words.dot
  have htaken : ∀ {taken rest}, IsSegment taken → Stops rest →
      dotSegment ('.' :: (taken ++ rest)) = some (taken, rest) :=
    fun hsegment hstops => dotSegment_eq_some_iff.mpr ⟨rfl, hsegment, hstops⟩
  cases second with
  | none =>
      cases third with
      | some third => exact absurd rfl (hthird third rfl).2
      | none =>
          simp only [Match.chars, dotted, List.append_nil, List.cons_append, List.append_assoc,
            matchAt, (hbehind _).1, (hbehind _).2, if_neg hkind, htaken hfirst hstops, hfull rfl]
  | some second =>
      have hsegment := hsecond second rfl
      cases third with
      | none =>
          simp only [Match.chars, dotted, List.append_nil, List.cons_append, List.append_assoc,
            matchAt, (hbehind _).1, (hbehind _).2, if_neg hkind, htaken hfirst stops_dot,
            htaken hsegment hstops, hfull rfl]
      | some third =>
          have hsegment' := (hthird third rfl).1
          simp only [Match.chars, dotted, List.cons_append, List.append_assoc,
            matchAt, (hbehind _).1, (hbehind _).2, if_neg hkind, htaken hfirst stops_dot,
            htaken hsegment stops_dot, htaken hsegment' hstops]

theorem IsMatch.cut (h : IsMatch words m (rest ++ more)) : IsMatch words m rest :=
  ⟨h.kind, h.first, h.second, h.third, h.stops.cut, fun hthird => dotSegment_cut (h.full hthird)⟩

theorem matchAt_cut (h : matchAt words (text ++ more) = none) : matchAt words text = none := by
  cases hmatch : matchAt words text with
  | none => rfl
  | some m =>
      obtain ⟨rest, rfl, hm⟩ := matchAt_sound hmatch
      obtain ⟨kind, first, second, third⟩ := m
      obtain ⟨hkind, hword⟩ := hm.kind
      obtain ⟨hne, hsegment⟩ := hm.first
      cases first with
      | nil => exact absurd rfl hne
      | cons c first =>
          have hc : isSegment c = true := hsegment c List.mem_cons_self
          generalize hbehind : first ++ (dotted second ++ (dotted third ++ (rest ++ more))) =
            behind
          have htext : (Match.mk kind (c :: first) second third).chars ++ rest ++ more =
              '$' :: (kind ++ '.' :: c :: behind) := by
            rw [← hbehind]
            simp [Match.chars]
          have hspan : (kind ++ '.' :: c :: behind).takeWhile words.isWord = kind ∧
              (kind ++ '.' :: c :: behind).dropWhile words.isWord = '.' :: c :: behind := by
            refine span_eq hword fun d hd => ?_
            rw [← Option.some.inj hd]
            exact words.dot
          rw [htext, matchAt, hspan.1, hspan.2, if_neg hkind] at h
          split at h
          · rename_i hdot
            have hstops : Stops (c :: behind) := segment_eq_none_iff.mp hdot
            rw [hstops c rfl] at hc
            cases hc
          · split at h
            · cases h
            · split at h <;> cases h

end Matches

section Tokens

variable {words} {text rest : List Char}

def charsOf (parts : List Token) : List Char := parts.flatMap Token.chars

theorem charsOf_append (earlier later : List Token) :
    charsOf (earlier ++ later) = charsOf earlier ++ charsOf later := List.flatMap_append

theorem length_chars_pos (m : Match) : 0 < m.chars.length := by
  rw [Match.chars]
  simp

theorem tokensFrom_eq (skip : ℕ) (text : List Char) :
    tokensFrom words skip text = tokens words (text.drop skip) := by
  induction text generalizing skip with
  | nil =>
      cases skip with
      | zero => rfl
      | succ skip => rfl
  | cons c text ih =>
      cases skip with
      | zero => rfl
      | succ skip => exact ih skip

theorem tokens_character {c : Char} (h : matchAt words (c :: rest) = none) :
    tokens words (c :: rest) = .character c :: tokens words rest := by
  rw [tokens, tokensFrom, h]
  rfl

theorem tokens_reference {m : Match} (h : IsMatch words m rest) :
    tokens words (m.chars ++ rest) = .reference m :: tokens words rest := by
  have hmatch := matchAt_complete h
  have hlength := length_chars_pos m
  cases hchars : m.chars with
  | nil =>
      rw [hchars] at hlength
      cases hlength
  | cons c chars =>
      rw [hchars] at hmatch
      rw [List.cons_append, tokens, tokensFrom, ← List.cons_append, hmatch]
      show Token.reference m :: tokensFrom words (m.chars.length - 1) (chars ++ rest) = _
      rw [tokensFrom_eq, hchars, List.length_cons, Nat.add_sub_cancel, List.drop_left]

theorem tokens_cases (words : WordCharacters) (hne : text ≠ []) :
    (∃ c rest, text = c :: rest ∧ matchAt words text = none ∧
      tokens words text = .character c :: tokens words rest) ∨
    ∃ m rest, text = m.chars ++ rest ∧ IsMatch words m rest ∧
      tokens words text = .reference m :: tokens words rest := by
  cases hmatch : matchAt words text with
  | none =>
      cases text with
      | nil => exact absurd rfl hne
      | cons c rest => exact .inl ⟨c, rest, rfl, rfl, tokens_character hmatch⟩
  | some m =>
      obtain ⟨rest, rfl, hm⟩ := matchAt_sound hmatch
      exact .inr ⟨m, rest, rfl, hm, tokens_reference hm⟩

theorem charsOf_tokens (words : WordCharacters) (text : List Char) : charsOf (tokens words text) = text := by
  induction hlength : text.length using Nat.strong_induction_on generalizing text with
  | _ n ih =>
      by_cases hne : text = []
      · rw [hne]
        rfl
      · rcases tokens_cases words hne with
          ⟨c, rest, rfl, -, htokens⟩ | ⟨m, rest, rfl, -, htokens⟩
        · rw [htokens, charsOf, List.flatMap_cons]
          have hrest := ih rest.length (by rw [← hlength]; simp) rest rfl
          exact congrArg (List.cons c) hrest
        · rw [htokens, charsOf, List.flatMap_cons]
          have hpos := length_chars_pos m
          have hrest := ih rest.length (by rw [← hlength, List.length_append]; omega) rest rfl
          exact congrArg (m.chars ++ ·) hrest

theorem tokens_cut {earlier later : List Token} (h : tokens words text = earlier ++ later) :
    tokens words (charsOf earlier) = earlier ∧ tokens words (charsOf later) = later := by
  induction earlier generalizing text with
  | nil =>
      refine ⟨rfl, ?_⟩
      rw [List.nil_append] at h
      rw [← h, charsOf_tokens]
  | cons part earlier ih =>
      have htext : text = part.chars ++ (charsOf earlier ++ charsOf later) := by
        rw [← charsOf_tokens words text, h, charsOf, List.flatMap_append,
          List.flatMap_cons, List.append_assoc]
        rfl
      have hne : text ≠ [] := by
        rintro rfl
        cases h
      rcases tokens_cases words hne with
        ⟨c, rest, rfl, hmatch, htokens⟩ | ⟨m, rest, rfl, hm, htokens⟩
      · rw [htokens] at h
        obtain ⟨rfl, hrest⟩ := List.cons.inj h
        obtain ⟨hearlier, hlater⟩ := ih hrest
        obtain rfl := (List.cons.inj htext).2
        refine ⟨?_, hlater⟩
        have hmatch' : matchAt words ((c :: charsOf earlier) ++ charsOf later) = none := hmatch
        exact (tokens_character (matchAt_cut hmatch')).trans (congrArg _ hearlier)
      · rw [htokens] at h
        obtain ⟨rfl, hrest⟩ := List.cons.inj h
        obtain ⟨hearlier, hlater⟩ := ih hrest
        obtain rfl := List.append_cancel_left htext
        exact ⟨(tokens_reference hm.cut).trans (congrArg _ hearlier), hlater⟩

end Tokens

end MindscapeLocalCore.Workflow.TemplatePattern
