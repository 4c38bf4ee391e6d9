import Mathlib.Logic.Function.Basic
import MindscapeLocalCore.Library.JsonText
import MindscapeLocalCore.Workflow.PlaybookTemplates

/-!
The references that templates are written with, and the values that they name. A reference stands
alone in a string, or between other text.
-/

namespace MindscapeLocalCore.Workflow.TemplateReferences

open Library Library.Json Library.JsonPaths Library.PythonText Library.TextPieces Library.TextScan
open PlaybookTemplates

variable {b : Builtins}

structure Name where
  chars : List Char
  plain : ∀ c ∈ chars, c ≠ '.' ∧ c ≠ '[' ∧ c ≠ '}' ∧ isSpace c = false

/-- A name, and the position of an item of the list that it leads to. -/
structure Segment (b : Builtins) where
  name : Name
  index : Option ℕ
  short : ∀ i ∈ index, i.repr.toList.length ≤ b.maxDigits

def Name.segment (b : Builtins) (name : Name) : Segment b := ⟨name, none, nofun⟩

/-- `name` or `name[i]` -/
def Segment.text (segment : Segment b) : List Char :=
  match segment.index with
  | none => segment.name.chars
  | some i => segment.name.chars ++ '[' :: (i.repr.toList ++ [']'])

def Segment.steps (segment : Segment b) : List Step :=
  .key (String.ofList segment.name.chars) :: segment.index.toList.map .index

/-- A name of digits is one that `int` reads. -/
def Segment.Readable (segment : Segment b) : Prop :=
  isNumeral b segment.name.chars = true → (int b segment.name.chars).isSome

inductive Reference (b : Builtins) where
  | input (first : Segment b) (rest : List (Segment b))
  | step (stepId : Name) (path : List (Segment b))
  | context (first : Segment b) (rest : List (Segment b))
  | item (path : List (Segment b)) (readable : ∀ segment ∈ path, segment.Readable)
  | index

/-- `{{item}}` -/
def Reference.loopItem (b : Builtins) : Reference b :=
  .item [] fun _ h => absurd h List.not_mem_nil

def Reference.parts : Reference b → List (List Char)
  | .input first rest => "input".toList :: (first :: rest).map Segment.text
  | .step stepId path => "step".toList :: stepId.chars :: path.map Segment.text
  | .context first rest => "context".toList :: (first :: rest).map Segment.text
  | .item path _ => "item".toList :: path.map Segment.text
  | .index => ["index".toList]

def Reference.expr (reference : Reference b) : List Char := List.intercalate ['.'] reference.parts

def Reference.text (reference : Reference b) : List Char := wholeMatch reference.expr

def valueAt (document : Json) (path : List (Segment b)) : Option Json :=
  follow document (path.flatMap Segment.steps)

def Reference.named (values : Values) : Reference b → Option Json
  | .input first rest => valueAt (.obj values.playbookInputs) (first :: rest)
  | .step stepId path =>
      (values.stepOutputs (String.ofList stepId.chars)).bind fun output => valueAt (.obj output) path
  | .context first rest => valueAt (.obj values.workflowContext) (first :: rest)
  | .item path _ =>
      (Dict.get? (outputOf values "_loop".toList) "item").bind fun item => valueAt item path
  | .index => Dict.get? (outputOf values "_loop".toList) "index"

def Blank (text : List Char) : Prop := ∀ c ∈ text, isSpace c = true

structure Around (before after : List Char) : Prop where
  bare_before : ¬ ['{', '{'] <:+: before ++ ['{']
  bare_after : ¬ ['{', '{'] <:+: after
  visible : ¬ (Blank before ∧ Blank after)

structure ResolvesSame (values : Values) (reference : Reference b) : Prop where
  alone_returns : ∀ left right, Blank left → Blank right →
    (resolvePlaybookString b values (left ++ (reference.text ++ right))).isSome
  inside_returns : ∀ before after, Around before after →
    (resolvePlaybookString b values (before ++ (reference.text ++ after))).isSome
  alone : ∀ value, reference.named values = some value → value ≠ .null →
    ∀ left right, Blank left → Blank right →
      resolvePlaybookString b values (left ++ (reference.text ++ right)) = some value
  inside : ∀ value, reference.named values = some value → value ≠ .null →
    ∀ before after, Around before after →
      resolvePlaybookString b values (before ++ (reference.text ++ after)) =
        some (reparse b (before ++ (textForm b value ++ after)))

def contextKey (first : Segment b) (rest : List (Segment b)) : String :=
  String.ofList (List.intercalate ['.'] ((first :: rest).map Segment.text))

/-- What a reference resolves for: a value of the inputs, a value in the output of a step or the
whole of it unless it is empty, a text that the context has under the whole path, and no value of
the loop. -/
def Supported (values : Values) : Reference b → Prop
  | .input _ _ => True
  | .step stepId [] => values.stepOutputs (String.ofList stepId.chars) ≠ some []
  | .step _ (_ :: _) => True
  | .context first rest =>
      (∀ value, Dict.get? values.workflowContext (contextKey first rest) = some value →
        value = .null ∨ ∃ text, value = .str text) ∧
      ∀ value, (Reference.context first rest).named values = some value → value ≠ .null →
        Dict.get? values.workflowContext (contextKey first rest) = some value
  | .item path readable => ∀ value, (Reference.item path readable).named values = some value → value = .null
  | .index => ∀ value, (Reference.index (b := b)).named values = some value → value = .null

variable {values : Values} {reference : Reference b} {segment : Segment b} {document last : Json}
  {path : List (Segment b)} {before after left right group text : List Char}

/-! ### Texts of references -/

def Inner (c : Char) : Prop := c ≠ '}' ∧ isSpace c = false

theorem inner_of_isDigit {c : Char} (h : c.isDigit = true) : c ≠ '.' ∧ c ≠ '[' ∧ Inner c := by
  have hbounds : 48 ≤ c.toNat ∧ c.toNat ≤ 57 := Char.isDigit_iff_toNat.mp h
  refine ⟨?_, ?_, ?_, isSpace_of_visible (by omega) (by omega)⟩
  · rintro rfl
    exact absurd h (by decide)
  · rintro rfl
    exact absurd h (by decide)
  · rintro rfl
    exact absurd h (by decide)

theorem Name.inner (name : Name) : ∀ c ∈ name.chars, c ≠ '.' ∧ Inner c :=
  fun c hc => ⟨(name.plain c hc).1, (name.plain c hc).2.2⟩

theorem Segment.inner (segment : Segment b) : ∀ c ∈ segment.text, c ≠ '.' ∧ Inner c := by
  intro c hc
  rw [Segment.text] at hc
  split at hc
  · exact segment.name.inner c hc
  · rename_i i _
    rcases List.mem_append.mp hc with hname | hindex
    · exact segment.name.inner c hname
    · rcases List.mem_cons.mp hindex with rfl | hdigits
      · exact ⟨by decide, by decide, by decide⟩
      · rcases List.mem_append.mp hdigits with hdigit | hclose
        · have hinner := inner_of_isDigit ((PythonInt.isDigits_repr i).2 c hdigit)
          exact ⟨hinner.1, hinner.2.2⟩
        · obtain rfl := List.mem_singleton.mp hclose
          exact ⟨by decide, by decide, by decide⟩

theorem forall_mem_map_text : ∀ part ∈ path.map Segment.text, ∀ c ∈ part, c ≠ '.' ∧ Inner c := by
  intro part hpart
  obtain ⟨segment, -, rfl⟩ := List.mem_map.mp hpart
  exact segment.inner

theorem Reference.inner_parts (reference : Reference b) :
    ∀ part ∈ reference.parts, ∀ c ∈ part, c ≠ '.' ∧ Inner c := by
  have hall : (["input", "step", "context", "item", "index"].all fun word =>
      word.toList.all fun c => decide (c ≠ '.' ∧ c ≠ '}' ∧ isSpace c = false)) = true := by
    decide +kernel
  have hword : ∀ word ∈ ["input", "step", "context", "item", "index"], ∀ c ∈ word.toList,
      c ≠ '.' ∧ Inner c := by
    intro word hmem c hc
    have hchar := List.all_eq_true.mp (List.all_eq_true.mp hall word hmem) c hc
    rw [decide_eq_true_eq] at hchar
    exact hchar
  intro part hpart
  cases reference with
  | input first rest =>
      rcases List.mem_cons.mp hpart with rfl | hpart
      · exact hword "input" (by decide)
      · exact forall_mem_map_text part hpart
  | step stepId path =>
      rcases List.mem_cons.mp hpart with rfl | hpart
      · exact hword "step" (by decide)
      · rcases List.mem_cons.mp hpart with rfl | hpart
        · exact stepId.inner
        · exact forall_mem_map_text part hpart
  | context first rest =>
      rcases List.mem_cons.mp hpart with rfl | hpart
      · exact hword "context" (by decide)
      · exact forall_mem_map_text part hpart
  | item path _ =>
      rcases List.mem_cons.mp hpart with rfl | hpart
      · exact hword "item" (by decide)
      · exact forall_mem_map_text part hpart
  | index =>
      obtain rfl := List.mem_singleton.mp hpart
      exact hword "index" (by decide)

theorem forall_mem_intercalate {parts : List (List Char)} {keep : Char → Prop} (hdot : keep '.')
    (h : ∀ part ∈ parts, ∀ c ∈ part, keep c) : ∀ c ∈ List.intercalate ['.'] parts, keep c := by
  induction parts with
  | nil => exact fun c hc => absurd hc List.not_mem_nil
  | cons part parts ih =>
      have hrest := ih fun part hpart => h part (List.mem_cons_of_mem _ hpart)
      cases parts with
      | nil =>
          rw [List.intercalate_singleton]
          exact h part List.mem_cons_self
      | cons next parts =>
          rw [List.intercalate_cons_cons]
          intro c hc
          rcases List.mem_append.mp hc with hc | hc
          · rcases List.mem_append.mp hc with hc | hc
            · exact h part List.mem_cons_self c hc
            · exact List.mem_singleton.mp hc ▸ hdot
          · exact hrest c hc

theorem Reference.inner_expr (reference : Reference b) : ∀ c ∈ reference.expr, Inner c :=
  forall_mem_intercalate ⟨by decide, by decide⟩
    fun part hpart c hc => (reference.inner_parts part hpart c hc).2

theorem Reference.trim_expr (reference : Reference b) : trim reference.expr = reference.expr :=
  trim_of_unspaced fun c hc => (reference.inner_expr c hc).2

theorem Reference.splitOn_expr (reference : Reference b) :
    reference.expr.splitOn '.' = reference.parts := by
  refine List.splitOn_intercalate '.' (fun part hpart hdot => ?_) ?_
  · exact (reference.inner_parts part hpart '.' hdot).1 rfl
  · cases reference <;> exact List.cons_ne_nil _ _

theorem Reference.expr_ne_nil (reference : Reference b) : reference.expr ≠ [] := by
  intro h
  have hparts := reference.splitOn_expr
  rw [h] at hparts
  cases reference <;> cases hparts

/-! ### Walks -/

theorem Segment.stepInto_eq (segment : Segment b) (value : Json) :
    stepInto b value segment.text = some (match segment.index with
      | none => getMember value segment.name.chars
      | some i =>
          match value with
          | .obj _ => getItem (getMember value segment.name.chars) i
          | _ => getItem value i) := by
  have hname : '[' ∉ segment.name.chars := fun h => (segment.name.plain '[' h).2.1 rfl
  rw [stepInto, Segment.text]
  cases hindex : segment.index with
  | none => exact if_neg hname
  | some i =>
      have hdigits : '[' ∉ i.repr.toList ++ [']'] := by
        intro h
        rcases List.mem_append.mp h with h | h
        · exact (inner_of_isDigit ((PythonInt.isDigits_repr i).2 '[' h)).2.1 rfl
        · cases List.mem_singleton.mp h
      have hsplit : (segment.name.chars ++ '[' :: (i.repr.toList ++ [']'])).splitOn '[' =
          [segment.name.chars, i.repr.toList ++ [']']] := by
        have hnone : ∀ part ∈ [segment.name.chars, i.repr.toList ++ [']']], '[' ∉ part :=
          List.forall_mem_cons.mpr ⟨hname, List.forall_mem_singleton.mpr hdigits⟩
        have hjoin := List.splitOn_intercalate '[' hnone (List.cons_ne_nil _ _)
        rw [List.intercalate_cons_cons, List.intercalate_singleton, List.append_assoc] at hjoin
        exact hjoin
      have hstrip : rstrip [']'] (i.repr.toList ++ [']']) = i.repr.toList := by
        refine rstrip_append (fun c hc hclose => ?_) fun c hc => hc
        obtain rfl := List.mem_singleton.mp hclose
        exact absurd ((PythonInt.isDigits_repr i).2 ']' hc) (by decide)
      have hint : int b i.repr.toList = some (i : ℤ) := by
        rw [int, String.ofList_toList, PythonInt.parseInt_of_isDigits (PythonInt.isDigits_repr i),
          if_pos (segment.short i hindex), PythonInt.decimalValue_repr]
      have hpart : indexedPart b (segment.name.chars ++ '[' :: (i.repr.toList ++ [']'])) =
          some (segment.name.chars, (i : ℤ)) := by
        rw [indexedPart, hsplit]
        show (int b (rstrip [']'] (i.repr.toList ++ [']']))).map _ = _
        rw [hstrip, hint]
        rfl
      rw [if_pos (List.mem_append_right _ List.mem_cons_self), hpart]
      rfl

theorem getItem_of_into {i : ℕ} {next : Json} (h : (Step.index i).into document = some next) :
    getItem document i = next := by
  cases document with
  | arr items =>
      have hitem : items[i]? = some next := h
      have hlength : i < items.length := (List.getElem?_eq_some_iff.mp hitem).1
      rw [getItem, if_pos ⟨Int.natCast_nonneg i, Int.ofNat_lt.mpr hlength⟩, Int.toNat_natCast, hitem]
      rfl
  | null => cases h
  | bool => cases h
  | num => cases h
  | str => cases h
  | obj => cases h

theorem Segment.stepInto_of_follow (h : follow document segment.steps = some last) :
    stepInto b document segment.text = some last := by
  obtain ⟨next, hnext, hlast⟩ := Option.bind_eq_some_iff.mp h
  rw [segment.stepInto_eq]
  cases document with
  | obj members =>
      have hmember := getMember_of_into hnext
      cases hindex : segment.index with
      | none =>
          rw [hindex] at hlast
          rw [← Option.some.inj hlast]
          exact congrArg some hmember
      | some i =>
          rw [hindex] at hlast
          obtain ⟨item, hitem, hlast⟩ := Option.bind_eq_some_iff.mp hlast
          obtain rfl := Option.some.inj hlast
          show some (getItem (getMember (.obj members) segment.name.chars) i) = _
          rw [hmember, getItem_of_into hitem]
  | null => cases hnext
  | bool => cases hnext
  | num => cases hnext
  | str => cases hnext
  | arr => cases hnext

theorem walk_isSome (document : Json) (path : List (Segment b)) :
    (walk b document (path.map Segment.text)).isSome := by
  refine walkWith_isSome fun value part hpart => ?_
  obtain ⟨segment, -, rfl⟩ := List.mem_map.mp hpart
  rw [segment.stepInto_eq]
  rfl

theorem walk_of_valueAt (h : valueAt document path = some last) :
    walk b document (path.map Segment.text) = some last :=
  walkWith_of_follow (fun _ _ => List.cons_ne_nil _ _)
    (fun _ _ _ _ hnext => Segment.stepInto_of_follow hnext) h

/-! ### Strings -/

theorem Reference.notMem_expr (reference : Reference b) : '}' ∉ reference.expr :=
  fun h => (reference.inner_expr '}' h).1 rfl

theorem Reference.trim_text (reference : Reference b) : trim reference.text = reference.text := by
  refine trim_of_unspaced fun c hc => ?_
  rcases List.mem_cons.mp hc with rfl | hc
  · decide
  · rcases List.mem_cons.mp hc with rfl | hc
    · decide
    · rcases List.mem_append.mp hc with hc | hc
      · exact (reference.inner_expr c hc).2
      · rw [List.eq_of_mem_replicate (n := 2) hc]
        decide

theorem resolve_alone (hleft : Blank left) (hright : Blank right) :
    resolvePlaybookString b values (left ++ (reference.text ++ right)) =
      resolveExact b values reference.expr := by
  have hexact : exactVariable (trim (left ++ (reference.text ++ right))) = some reference.expr := by
    rw [trim_between hleft hright, reference.trim_text, exactVariable_eq_some_iff]
    exact ⟨rfl, reference.notMem_expr, reference.expr_ne_nil⟩
  rw [resolvePlaybookString, hexact]
  show resolveExact b values (trim reference.expr) = _
  rw [reference.trim_expr]

theorem Around.clear (h : Around before after) {others : List Char} :
    Clear readVariable before ('{' :: others) := by
  intro c rest hsuffix
  refine readVariable_eq_none fun next hbraces => ?_
  obtain ⟨start, hstart⟩ := hsuffix
  rw [List.cons_append] at hbraces
  obtain ⟨rfl, hsecond⟩ := List.cons.inj hbraces
  cases rest with
  | nil => exact h.bare_before ⟨start, [], by rw [← hstart]; simp⟩
  | cons d rest =>
      rw [List.cons_append] at hsecond
      obtain ⟨rfl, -⟩ := List.cons.inj hsecond
      exact h.bare_before ⟨start, rest ++ ['{'], by rw [← hstart]; simp⟩

theorem Around.clear_after (h : Around before after) : Clear readVariable after [] := by
  intro c rest hsuffix
  refine readVariable_eq_none fun next hbraces => ?_
  obtain ⟨start, hstart⟩ := hsuffix
  rw [List.append_nil] at hbraces
  exact h.bare_after ⟨start, next, by rw [← hstart, hbraces]; simp⟩

theorem wholeMatch_append_inj {group' : List Char} (h : '}' ∉ group) (h' : '}' ∉ group')
    (hsame : wholeMatch group ++ after = wholeMatch group' ++ before) :
    group = group' ∧ after = before := by
  rw [wholeMatch, wholeMatch, List.cons_append, List.cons_append, List.cons_append,
    List.cons_append, List.append_assoc, List.append_assoc] at hsame
  have hinner := (List.cons.inj (List.cons.inj hsame).2).2
  obtain ⟨hgroup, hrest⟩ := TextParts.append_separator_inj h h' hinner
  exact ⟨hgroup, (List.cons.inj hrest).2⟩

theorem Around.not_exact (h : Around before after) :
    exactVariable (trim (before ++ (reference.text ++ after))) = none := by
  cases hexact : exactVariable (trim (before ++ (reference.text ++ after))) with
  | none => rfl
  | some group =>
      obtain ⟨htrim, hgroup, -⟩ := exactVariable_eq_some_iff.mp hexact
      obtain ⟨left, right, hsplit, hleft, hright⟩ :=
        exists_trim (before ++ (reference.text ++ after))
      rw [htrim] at hsplit
      have hbefore : before = left := by
        rcases List.append_eq_append_iff.mp hsplit with ⟨more, hmore, hrest⟩ | ⟨more, hmore, hrest⟩
        · cases more with
          | nil => exact (hmore.trans (List.append_nil before)).symm
          | cons c more =>
              obtain ⟨rfl, -⟩ := List.cons.inj hrest
              have hspace := hleft '{' (hmore ▸ List.mem_append_right _ List.mem_cons_self)
              cases hspace
        · -- Two braces would begin before the reference.
          cases more with
          | nil => exact hmore.trans (List.append_nil left)
          | cons c more =>
              obtain ⟨rfl, hsecond⟩ := List.cons.inj hrest
              cases more with
              | nil => exact absurd ⟨left, [], by rw [hmore]; simp⟩ h.bare_before
              | cons d more =>
                  obtain ⟨rfl, -⟩ := List.cons.inj hsecond
                  exact absurd ⟨left, more ++ ['{'], by rw [hmore]; simp⟩ h.bare_before
      rw [hbefore] at hsplit
      obtain ⟨-, hafter⟩ := wholeMatch_append_inj reference.notMem_expr hgroup
        (List.append_cancel_left hsplit)
      exact absurd ⟨hbefore ▸ hleft, hafter ▸ hright⟩ h.visible

theorem resolve_inside (h : Around before after) :
    resolvePlaybookString b values (before ++ (reference.text ++ after)) =
      (replaceVar b values reference.expr).map fun text => reparse b (before ++ (text ++ after)) := by
  have hread := @readVariable_wholeMatch reference.expr after reference.notMem_expr
    reference.expr_ne_nil
  rw [resolvePlaybookString, h.not_exact]
  show (substitute b values (before ++ (reference.text ++ after))).map (reparse b) = _
  have hne : reference.text ≠ [] := List.cons_ne_nil _ _
  rw [substitute, subWith_between hne h.clear hread h.clear_after, Option.map_map]
  rfl

/-! ### Kinds of references -/

theorem varType_toList (word : String) (rest : List (List Char)) :
    varType (word.toList :: rest) = word := String.ofList_toList

theorem isNull_of_ne {value : Json} (h : value ≠ .null) : isNull value = false := by
  cases value with
  | null => exact absurd rfl h
  | bool => rfl
  | num => rfl
  | str => rfl
  | arr => rfl
  | obj => rfl

theorem resolvesSame_iff_expr : ResolvesSame values reference ↔
    (resolveExact b values reference.expr).isSome ∧ (replaceVar b values reference.expr).isSome ∧
      ∀ value, reference.named values = some value → value ≠ .null →
        resolveExact b values reference.expr = some value ∧
          replaceVar b values reference.expr = some (textForm b value) := by
  have hnil : Blank [] := fun c hc => absurd hc List.not_mem_nil
  have hletter : Around ['x'] [] :=
    ⟨by decide, by decide, fun h => absurd (h.1 'x' List.mem_cons_self) (by decide)⟩
  constructor
  · intro h
    have halone := h.alone_returns [] [] hnil hnil
    have hinside := h.inside_returns ['x'] [] hletter
    rw [resolve_alone hnil hnil] at halone
    rw [resolve_inside hletter, Option.isSome_map] at hinside
    refine ⟨halone, hinside, fun value hvalue hne => ⟨?_, ?_⟩⟩
    · rw [← resolve_alone hnil hnil]
      exact h.alone value hvalue hne [] [] hnil hnil
    · have hsame := h.inside value hvalue hne ['x'] [] hletter
      rw [resolve_inside hletter] at hsame
      obtain ⟨text, htext, hsame⟩ := Option.map_eq_some_iff.mp hsame
      have hstring : String.ofList ('x' :: (text ++ [])) =
          String.ofList ('x' :: (textForm b value ++ [])) := Json.str.inj hsame
      rw [String.ofList_inj, List.append_nil, List.append_nil] at hstring
      rw [htext, (List.cons.inj hstring).2]
  · rintro ⟨halone, hinside, hvalues⟩
    refine ⟨fun left right hleft hright => ?_, fun before after haround => ?_,
      fun value hvalue hne left right hleft hright => ?_,
      fun value hvalue hne before after haround => ?_⟩
    · rw [resolve_alone hleft hright]
      exact halone
    · rw [resolve_inside haround, Option.isSome_map]
      exact hinside
    · rw [resolve_alone hleft hright]
      exact (hvalues value hvalue hne).1
    · rw [resolve_inside haround, (hvalues value hvalue hne).2]
      rfl

section Kinds

variable {first : Segment b} {rest : List (Segment b)} {stepId : Name}

theorem resolveExact_input : resolveExact b values (Reference.input first rest).expr =
    walk b (.obj values.playbookInputs) ((first :: rest).map Segment.text) := by
  rw [resolveExact, Reference.splitOn_expr, Reference.parts]
  simp only [varType_toList]
  rw [if_neg (by decide), if_pos trivial]
  rfl

theorem replaceVar_input : replaceVar b values (Reference.input first rest).expr =
    (walk b (.obj values.playbookInputs) ((first :: rest).map Segment.text)).map fun value =>
      if isNull value then [] else textForm b value := by
  rw [replaceVar, Reference.trim_expr, Reference.splitOn_expr, Reference.parts]
  simp only [varType_toList]
  rw [if_pos trivial]
  rfl

theorem resolveExact_step : resolveExact b values (Reference.step stepId (first :: rest)).expr =
    walk b (.obj (outputOf values stepId.chars)) ((first :: rest).map Segment.text) := by
  rw [resolveExact, Reference.splitOn_expr, Reference.parts]
  simp only [varType_toList]
  rw [if_pos trivial]
  rfl

theorem replaceVar_step : replaceVar b values (Reference.step stepId (first :: rest)).expr =
    (walk b (.obj (outputOf values stepId.chars)) ((first :: rest).map Segment.text)).map
      fun value =>
        if isNull value ||
            isText value (wholeMatch (Reference.step stepId (first :: rest)).expr) then
          wholeMatch (Reference.step stepId (first :: rest)).expr
        else textForm b value := by
  rw [replaceVar, Reference.trim_expr, Reference.splitOn_expr, Reference.parts]
  simp only [varType_toList]
  rw [if_neg (by decide), if_pos trivial]
  rfl

theorem resolveExact_output : resolveExact b values (Reference.step (b := b) stepId []).expr =
    some (((values.stepOutputs (String.ofList stepId.chars)).map .obj).getD .null) := by
  rw [resolveExact, Reference.splitOn_expr, Reference.parts]
  simp only [varType_toList]
  rw [if_pos trivial]
  have hpath : pathOf ("step".toList :: stepId.chars :: ([] : List (Segment b)).map Segment.text) =
      [stepId.chars] := rfl
  rw [hpath]
  cases h : values.stepOutputs (String.ofList stepId.chars) <;> simp only [h] <;> rfl

theorem replaceVar_output : replaceVar b values (Reference.step (b := b) stepId []).expr =
    some (if (outputOf values stepId.chars).isEmpty then
        wholeMatch (Reference.step (b := b) stepId []).expr
      else b.dumps (.obj (outputOf values stepId.chars))) := by
  rw [replaceVar, Reference.trim_expr, Reference.splitOn_expr, Reference.parts]
  simp only [varType_toList]
  rw [if_neg (by decide), if_pos trivial]
  rfl

theorem resolveExact_context : resolveExact b values (Reference.context first rest).expr =
    some ((Dict.get? values.workflowContext (contextKey first rest)).getD .null) := by
  rw [resolveExact, Reference.splitOn_expr, Reference.parts]
  simp only [varType_toList]
  rw [if_neg (by decide), if_neg (by decide), if_pos trivial]
  rfl

theorem replaceVar_context : replaceVar b values (Reference.context first rest).expr =
    match Dict.get? values.workflowContext (contextKey first rest) with
    | none => some (wholeMatch (Reference.context first rest).expr)
    | some .null => some []
    | some (.str text) => some text.toList
    | some _ => none := by
  rw [replaceVar, Reference.trim_expr, Reference.splitOn_expr, Reference.parts]
  simp only [varType_toList]
  rw [if_neg (by decide), if_neg (by decide), if_neg (by decide), if_neg (by decide), if_pos trivial]
  rfl

theorem resolveExact_item {readable : ∀ segment ∈ path, segment.Readable} :
    resolveExact b values (Reference.item path readable).expr = some .null := by
  rw [resolveExact, Reference.splitOn_expr, Reference.parts]
  simp only [varType_toList]
  rw [if_neg (by decide), if_neg (by decide), if_neg (by decide)]

theorem resolveExact_index :
    resolveExact b values (Reference.index (b := b)).expr = some .null := by
  rw [resolveExact, Reference.splitOn_expr, Reference.parts]
  simp only [varType_toList]
  rw [if_neg (by decide), if_neg (by decide), if_neg (by decide)]

/-! ### What resolves -/

theorem resolvesSame_input : ResolvesSame values (Reference.input first rest) := by
  refine resolvesSame_iff_expr.mpr ⟨?_, ?_, fun value hvalue hne => ?_⟩
  · rw [resolveExact_input]
    exact walk_isSome _ _
  · rw [replaceVar_input, Option.isSome_map]
    exact walk_isSome _ _
  · rw [resolveExact_input, replaceVar_input, walk_of_valueAt hvalue, Option.map_some,
      isNull_of_ne hne]
    exact ⟨rfl, rfl⟩

theorem resolvesSame_step : ResolvesSame values (Reference.step stepId (first :: rest)) := by
  refine resolvesSame_iff_expr.mpr ⟨?_, ?_, fun value hvalue hne => ?_⟩
  · rw [resolveExact_step]
    exact walk_isSome _ _
  · rw [replaceVar_step, Option.isSome_map]
    exact walk_isSome _ _
  · obtain ⟨output, houtput, hpath⟩ := Option.bind_eq_some_iff.mp hvalue
    have hwalk : walk b (.obj (outputOf values stepId.chars))
        ((first :: rest).map Segment.text) = some value := by
      rw [outputOf, houtput]
      exact walk_of_valueAt hpath
    rw [resolveExact_step, replaceVar_step, hwalk, Option.map_some, isNull_of_ne hne,
      Bool.false_or]
    refine ⟨rfl, congrArg some ?_⟩
    -- A text that is the reference itself is left as it is.
    split
    · rename_i htext
      rw [eq_of_isText htext, textForm, b.str_text, String.toList_ofList]
      · nofun
      · nofun
    · rfl

theorem resolvesSame_output_iff : ResolvesSame values (Reference.step (b := b) stepId []) ↔
    values.stepOutputs (String.ofList stepId.chars) ≠ some [] := by
  rw [resolvesSame_iff_expr, resolveExact_output, replaceVar_output, outputOf, Reference.named]
  cases values.stepOutputs (String.ofList stepId.chars) with
  | none => exact iff_of_true ⟨rfl, rfl, fun _ h => by cases h⟩ (by simp)
  | some output =>
      cases output with
      | nil =>
          refine iff_of_false (fun h => ?_) fun h => h rfl
          have htext := Option.some.inj (h.2.2 (.obj []) rfl (by simp)).2
          rw [Option.getD_some, List.isEmpty_nil, if_pos rfl, textForm, b.dumps_empty, wholeMatch]
            at htext
          cases (List.cons.inj htext).2
      | cons member members =>
          refine iff_of_true ⟨rfl, rfl, fun value hvalue _ => ?_⟩ (by simp)
          obtain rfl := Option.some.inj hvalue
          exact ⟨rfl, rfl⟩

theorem resolvesSame_context_iff : ResolvesSame values (Reference.context first rest) ↔
    Supported values (Reference.context first rest) := by
  rw [resolvesSame_iff_expr, resolveExact_context, replaceVar_context, Supported]
  constructor
  · rintro ⟨-, hreturns, hvalues⟩
    refine ⟨fun value hget => ?_, fun value hvalue hne => ?_⟩
    · rw [hget] at hreturns
      cases value with
      | null => exact .inl rfl
      | str text => exact .inr ⟨text, rfl⟩
      | bool => cases hreturns
      | num => cases hreturns
      | arr => cases hreturns
      | obj => cases hreturns
    · have hexact := Option.some.inj (hvalues value hvalue hne).1
      cases hget : Dict.get? values.workflowContext (contextKey first rest) with
      | none =>
          rw [hget] at hexact
          exact absurd hexact.symm hne
      | some found =>
          rw [hget] at hexact
          exact congrArg some hexact
  · rintro ⟨htext, hvalues⟩
    refine ⟨rfl, ?_, fun value hvalue hne => ?_⟩
    · cases hget : Dict.get? values.workflowContext (contextKey first rest) with
      | none => rfl
      | some value =>
          rcases htext value hget with rfl | ⟨text, rfl⟩
          · rfl
          · rfl
    · have hget := hvalues value hvalue hne
      obtain ⟨text, rfl⟩ := (htext value hget).resolve_left hne
      rw [hget]
      exact ⟨rfl, congrArg some (b.str_text text).symm⟩

theorem itemInto_isSome (hreadable : segment.Readable) (value : Json) :
    (itemInto b value segment.text).isSome := by
  cases value with
  | arr items =>
      rw [itemInto]
      split
      · rename_i hdigits
        rw [Option.isSome_map]
        rw [Segment.text] at hdigits ⊢
        split at hdigits
        · exact hreadable hdigits
        · -- A bracket is no digit.
          have hbracket := List.all_eq_true.mp (Bool.and_eq_true_iff.mp hdigits).2 '['
            (List.mem_append_right _ List.mem_cons_self)
          rw [b.isDigit_ascii '[' (by decide)] at hbracket
          cases hbracket
      · rfl
  | null => rfl
  | bool => rfl
  | num => rfl
  | str => rfl
  | obj => rfl

theorem walkItem_isSome (hreadable : ∀ segment ∈ path, segment.Readable) (value : Json) :
    (walkItem b value (path.map Segment.text)).isSome := by
  refine walkWith_isSome fun value part hpart => ?_
  obtain ⟨segment, hsegment, rfl⟩ := List.mem_map.mp hpart
  exact itemInto_isSome (hreadable segment hsegment) value

theorem replaceVar_item_isSome (hreadable : ∀ segment ∈ path, segment.Readable) :
    (replaceVar b values (Reference.item path hreadable).expr).isSome := by
  rw [replaceVar, Reference.trim_expr, Reference.splitOn_expr, Reference.parts]
  simp only [varType_toList]
  rw [if_neg (by decide), if_neg (by decide), if_pos trivial]
  split
  · rfl
  · by_cases hpath : (varPath ("item".toList :: path.map Segment.text)).isEmpty = true
    · rw [if_pos hpath]
      rfl
    · rw [if_neg hpath, Option.isSome_map]
      cases path with
      | nil => exact absurd rfl hpath
      | cons segment path => exact walkItem_isSome hreadable _

theorem replaceVar_index_isSome :
    (replaceVar b values (Reference.index (b := b)).expr).isSome := by
  rw [replaceVar, Reference.trim_expr, Reference.splitOn_expr, Reference.parts]
  simp only [varType_toList]
  rw [if_neg (by decide), if_neg (by decide), if_neg (by decide), if_pos trivial]
  rfl

theorem resolvesSame_iff_of_lost (hexact : resolveExact b values reference.expr = some .null)
    (hreplace : (replaceVar b values reference.expr).isSome) :
    ResolvesSame values reference ↔
      ∀ value, reference.named values = some value → value = .null := by
  rw [resolvesSame_iff_expr, hexact]
  constructor
  · rintro ⟨-, -, hvalues⟩ value hvalue
    by_contra hne
    exact hne (Option.some.inj (hvalues value hvalue hne).1).symm
  · intro h
    exact ⟨rfl, hreplace, fun value hvalue hne => absurd (h value hvalue) hne⟩

end Kinds

/-- What a reference of the loop names in a turn of `execute_step_with_loop`. -/
def iteration (values : Values) (items : List Json) (index : ℕ) : Values :=
  let loop : Dict := [("index", .nat index), ("item", items[index]?.getD .null),
    ("total", .nat items.length)]
  { values with stepOutputs := Function.update values.stepOutputs "_loop" (some loop) }

theorem outputOf_iteration {items : List Json} {index : ℕ} :
    outputOf (iteration values items index) "_loop".toList =
      [("index", .nat index), ("item", items[index]?.getD .null), ("total", .nat items.length)] := by
  have hname : String.ofList "_loop".toList = "_loop" := String.ofList_toList
  rw [outputOf, hname, iteration]
  dsimp only
  rw [Function.update_self]
  rfl

theorem iteration_lost {items : List Json} {index : ℕ} {item : Json}
    (hitem : items[index]? = some item) (hne : item ≠ .null) :
    ¬ ResolvesSame (iteration values items index) (Reference.loopItem b) := by
  intro h
  have hnil : Blank [] := fun c hc => absurd hc List.not_mem_nil
  have hnamed : (Reference.loopItem b).named (iteration values items index) = some item := by
    rw [Reference.loopItem, Reference.named, outputOf_iteration, hitem]
    rfl
  have halone := h.alone item hnamed hne [] [] hnil hnil
  rw [resolve_alone hnil hnil, Reference.loopItem, resolveExact_item] at halone
  exact hne (Option.some.inj halone).symm

/-- How `json.dumps` writes. -/
def pythonStyle : JsonText.Style where
  itemSeparator := ", "
  keySeparator := ": "
  number := fun value =>
    match value with
    | .int value => value.repr
    | .float negative digits exponent =>
        (if negative then "-" else "") ++ digits.repr ++ "e" ++ exponent.repr

def asciiBuiltins : Builtins where
  digit := fun _ => none
  maxDigits := 4300
  isDigit := fun c => c.isDigit
  isDigit_ascii := fun _ _ => rfl
  str := fun value =>
    match value with
    | .null => "None".toList
    | .bool true => "True".toList
    | .bool false => "False".toList
    | .str text => text.toList
    | value => (JsonText.render pythonStyle value).toList
  str_text := fun _ => rfl
  dumps := fun value => (JsonText.render pythonStyle value).toList
  dumps_empty := by decide +kernel
  loads := fun _ => none

end MindscapeLocalCore.Workflow.TemplateReferences
