import Mathlib
import MindscapeLocalCore.Workflow.SlotOutputs
import MindscapeLocalCore.Workflow.StepConditions

/-!
Where a path of the form `step.id.field` or `input.field` is read: in templates, in the outputs of a
playbook, in conditions and in loops.
-/

namespace MindscapeLocalCore.Workflow.StepPaths

open Library Library.Json Library.JsonPaths Library.PythonText Library.TextPieces PlaybookTemplates
open SlotOutputs StepConditions TemplateReferences

variable (b : Builtins) (py : Evaluator)

/-! ### Loops -/

def arrayInto (value : Json) (part : List Char) : Option Json :=
  match value with
  | .obj _ => some (getMember value part)
  | .arr items =>
      if isNumeral b part then (int b part).bind fun index => items[index.toNat]? else some .null
  | _ => some .null

def items? : Json → Option (List Json)
  | .arr items => some items
  | _ => none

/-- `resolve_array_path`; none where it raises. -/
def resolveArrayPath (arrayPath : List Char) (inputs : Dict) (outputs : String → Option Dict) :
    Option (List Json) :=
  match arrayPath.splitOn '.' with
  | kind :: name :: fields =>
      if String.ofList kind = "step" then
        let stepResult := Json.obj ((outputs (String.ofList name)).getD [])
        if (List.intercalate ['.'] fields).isEmpty then items? stepResult
        else (walkWith (arrayInto b) stepResult fields).bind items?
      else if String.ofList kind = "input" then items? (getMember (.obj inputs) name)
      else none
  | _ => none

/-! ### Paths -/

structure Field where
  chars : List Char
  word : IsWord py chars

inductive ValuePath where
  | step (stepId : List Char) (first : Field py) (rest : List (Field py))
  | input (first : Field py) (rest : List (Field py))

variable {py}

def ValuePath.text : ValuePath py → List Char
  | .step stepId first rest =>
      List.intercalate ['.'] ("step".toList :: stepId :: (first :: rest).map Field.chars)
  | .input first rest => List.intercalate ['.'] ("input".toList :: (first :: rest).map Field.chars)

def keys (fields : List (Field py)) : List Step :=
  fields.map fun field => .key (String.ofList field.chars)

def ValuePath.leadsTo (values : Values) : ValuePath py → Option Json
  | .step stepId first rest =>
      (values.stepOutputs (String.ofList stepId)).bind fun output =>
        follow (.obj output) (keys (first :: rest))
  | .input first rest => follow (.obj values.playbookInputs) (keys (first :: rest))

def ValuePath.IsStep : ValuePath py → Prop
  | .step _ _ _ => True
  | .input _ _ => False

structure MeansSame (path : ValuePath py) : Prop where
  template : ∀ values value, path.leadsTo values = some value →
    resolvePlaybookString b values (wholeMatch path.text) = some value
  output : ∀ values value, path.leadsTo values = some value → path.IsStep →
    ∀ (outputDefs : List (String × String)) name, (outputDefs.map Prod.fst).Nodup →
      (name, String.ofList path.text) ∈ outputDefs →
        Dict.get? (collectFinalOutputs outputDefs values.stepOutputs) name = some value
  condition : ∀ values value, path.leadsTo values = some value → ∀ results,
    evaluateCondition py (wholeMatch path.text) results values.playbookInputs values.stepOutputs =
      value.truthy
  forEach : ∀ values items, path.leadsTo values = some (.arr items) →
    resolveArrayPath b path.text values.playbookInputs values.stepOutputs = some items

/-- One field of the inputs, or of a step whose id is a word that does not end with `input`. -/
def ValuePath.Direct : ValuePath py → Prop
  | .step stepId _ [] => IsWord py stepId ∧ ¬ "input".toList <:+ stepId
  | .step _ _ (_ :: _) => False
  | .input _ [] => True
  | .input _ (_ :: _) => False

/-- The expression that one field of a step stands for has no operator but `-`. -/
def ValuePath.Spelled : ValuePath py → Prop
  | .step stepId _ [] => '.' ∈ stepId ∨ '}' ∈ stepId ∨ ∀ c ∈ stepId, py.isWord c = true ∨ c = '-'
  | _ => True

variable {b} {values : Values} {value : Json} {stepId : List Char} {first : Field py}
  {rest : List (Field py)}

/-! ### Fields -/

theorem Field.inner (field : Field py) : ∀ c ∈ field.chars, c ≠ '.' ∧ Inner c := by
  intro c hc
  have hword := field.word.2 c hc
  refine ⟨?_, ?_, py.isWord_space c hword⟩
  · rintro rfl
    rw [py.isWord_ascii '.' (by decide)] at hword
    exact absurd hword (by decide)
  · rintro rfl
    rw [py.isWord_ascii '}' (by decide)] at hword
    exact absurd hword (by decide)

def nameOfWord {word : List Char} (h : IsWord py word) : Name where
  chars := word
  plain := by
    intro c hc
    have hinner := Field.inner ⟨word, h⟩ c hc
    refine ⟨hinner.1, ?_, hinner.2⟩
    rintro rfl
    have hbracket := h.2 '[' hc
    rw [py.isWord_ascii '[' (by decide)] at hbracket
    exact absurd hbracket (by decide)

def Field.segment (b : Builtins) (field : Field py) : Segment b :=
  (nameOfWord field.word).segment b

theorem map_text_segment (fields : List (Field py)) :
    (fields.map (Field.segment b)).map Segment.text = fields.map Field.chars := by
  rw [List.map_map]
  rfl

theorem keys_eq_flatMap (fields : List (Field py)) :
    keys fields = fields.flatMap fun field => [.key (String.ofList field.chars)] :=
  List.map_eq_flatMap

theorem valueAt_segments (document : Json) (fields : List (Field py)) :
    valueAt document (fields.map (Field.segment b)) = follow document (keys fields) := by
  rw [valueAt, List.flatMap_map, keys_eq_flatMap]
  rfl

theorem dot_notMem_chars : ∀ part ∈ (first :: rest).map Field.chars, '.' ∉ part := by
  intro part hpart
  obtain ⟨field, -, rfl⟩ := List.mem_map.mp hpart
  exact fun hmem => (field.inner '.' hmem).1 rfl

theorem splitOn_step (h : '.' ∉ stepId) : (ValuePath.step stepId first rest).text.splitOn '.' =
    "step".toList :: stepId :: (first :: rest).map Field.chars := by
  refine List.splitOn_intercalate '.' ?_ (List.cons_ne_nil _ _)
  rw [List.forall_mem_cons, List.forall_mem_cons]
  exact ⟨by decide, h, dot_notMem_chars⟩

theorem splitOn_input : (ValuePath.input first rest).text.splitOn '.' =
    "input".toList :: (first :: rest).map Field.chars := by
  refine List.splitOn_intercalate '.' ?_ (List.cons_ne_nil _ _)
  rw [List.forall_mem_cons]
  exact ⟨by decide, dot_notMem_chars⟩

theorem text_step : (ValuePath.step stepId first rest).text =
    "step".toList ++ '.' :: (stepId ++ '.' ::
      List.intercalate ['.'] ((first :: rest).map Field.chars)) := by
  rw [ValuePath.text, List.map_cons, List.intercalate_cons_cons, List.intercalate_cons_cons,
    List.append_assoc, List.append_assoc]
  rfl

theorem text_step_one : (ValuePath.step stepId first []).text = stepPath stepId first.chars := by
  rw [text_step, List.map_cons, List.map_nil, List.intercalate_singleton, stepPath]

theorem text_input_one : (ValuePath.input first []).text = "input".toList ++ '.' :: first.chars := by
  rw [ValuePath.text, List.map_cons, List.map_nil, List.intercalate_cons_cons,
    List.intercalate_singleton]
  simp

/-! ### Where the value is read -/

theorem leadsTo_step (h : (ValuePath.step stepId first rest).leadsTo values = some value) :
    ∃ output, values.stepOutputs (String.ofList stepId) = some output ∧
      follow (.obj output) (keys (first :: rest)) = some value :=
  Option.bind_eq_some_iff.mp h

theorem resolve_step (hstep : IsWord py stepId)
    (h : (ValuePath.step stepId first rest).leadsTo values = some value) :
    resolvePlaybookString b values (wholeMatch (ValuePath.step stepId first rest).text) =
      some value := by
  obtain ⟨output, houtput, hvalue⟩ := leadsTo_step h
  have hnil : Blank [] := fun c hc => absurd hc List.not_mem_nil
  have hresolve := @resolve_alone b values (Reference.step (nameOfWord hstep)
    ((first :: rest).map (Field.segment b))) [] [] hnil hnil
  have htext : (Reference.step (nameOfWord hstep) ((first :: rest).map (Field.segment b))).text =
      wholeMatch (ValuePath.step stepId first rest).text := by
    rw [Reference.text, Reference.expr, Reference.parts, map_text_segment]
    rfl
  have hwalk := @walk_of_valueAt b (.obj output) value ((first :: rest).map (Field.segment b))
    ((valueAt_segments _ _).trans hvalue)
  have hrecorded : outputOf values (nameOfWord hstep).chars = output := by
    rw [outputOf]
    exact congrArg (Option.getD · []) houtput
  rw [List.nil_append, List.append_nil, htext] at hresolve
  rw [hresolve, List.map_cons, resolveExact_step, hrecorded]
  exact hwalk

theorem resolve_input (h : (ValuePath.input first rest).leadsTo values = some value) :
    resolvePlaybookString b values (wholeMatch (ValuePath.input first rest).text) = some value := by
  have hnil : Blank [] := fun c hc => absurd hc List.not_mem_nil
  have hresolve := @resolve_alone b values (Reference.input (first.segment b)
    (rest.map (Field.segment b))) [] [] hnil hnil
  have htext : (Reference.input (first.segment b) (rest.map (Field.segment b))).text =
      wholeMatch (ValuePath.input first rest).text := by
    rw [Reference.text, Reference.expr, Reference.parts, ← List.map_cons, map_text_segment]
    rfl
  have hwalk := @walk_of_valueAt b (.obj values.playbookInputs) value
    ((first :: rest).map (Field.segment b)) ((valueAt_segments _ _).trans h)
  rw [List.nil_append, List.append_nil, htext] at hresolve
  rw [hresolve, resolveExact_input]
  exact hwalk

theorem resolveArrayPath_step {items : List Json} (hdot : '.' ∉ stepId)
    (h : (ValuePath.step stepId first rest).leadsTo values = some (.arr items)) (inputs : Dict) :
    resolveArrayPath b (ValuePath.step stepId first rest).text inputs values.stepOutputs =
      some items := by
  obtain ⟨output, houtput, hvalue⟩ := leadsTo_step h
  have hpath : (List.intercalate ['.'] ((first :: rest).map Field.chars)).isEmpty = false := by
    obtain ⟨c, word, hword⟩ := List.exists_cons_of_ne_nil first.word.1
    rw [List.map_cons, hword]
    cases rest with
    | nil => rfl
    | cons next rest => rfl
  have hwalk : walkWith (arrayInto b) (.obj output) ((first :: rest).map Field.chars) =
      some (.arr items) := by
    rw [keys_eq_flatMap] at hvalue
    refine walkWith_of_follow (fun _ _ => List.cons_ne_nil _ _) (fun field _ document next hnext => ?_)
      hvalue
    obtain ⟨last, hlast, hsame⟩ := Option.bind_eq_some_iff.mp hnext
    obtain rfl := Option.some.inj hsame
    have hmember := getMember_of_into hlast
    cases document with
    | obj members => exact congrArg some hmember
    | null => cases hlast
    | bool => cases hlast
    | num => cases hlast
    | str => cases hlast
    | arr => cases hlast
  rw [resolveArrayPath, splitOn_step hdot]
  dsimp only
  rw [String.ofList_toList, if_pos rfl, hpath, houtput, if_neg Bool.false_ne_true, Option.getD_some,
    hwalk]
  rfl

theorem resolveArrayPath_input (inputs : Dict) (outputs : String → Option Dict) :
    resolveArrayPath b (ValuePath.input first rest).text inputs outputs =
      items? (getMember (.obj inputs) first.chars) := by
  rw [resolveArrayPath, splitOn_input, List.map_cons]
  dsimp only
  rw [String.ofList_toList, if_neg (by decide), if_pos rfl]

theorem sourceValue_step (hdot : '.' ∉ stepId) (stepOutputs : String → Option Dict) :
    sourceValue stepOutputs (ValuePath.step stepId first rest).text =
      (stepOutputs (String.ofList stepId)).map fun output =>
        get output (String.ofList (List.intercalate ['.'] ((first :: rest).map Field.chars))) := by
  rw [sourceValue, splitOn_step hdot, List.map_cons]
  dsimp only
  rw [String.ofList_toList, if_pos rfl]

theorem evaluateCondition_step (results inputs : Dict) (outputs : String → Option Dict) :
    evaluateCondition py (wholeMatch (ValuePath.step stepId first []).text) results inputs outputs =
      (evalTruth py inputs outputs (pythonExpr py (stepPath stepId first.chars))).getD true := by
  rw [text_step_one]
  have hlast := List.getLast?_eq_some_getLast first.word.1
  have hspace := py.isWord_space _ (first.word.2 _ (List.getLast_mem first.word.1))
  refine evaluateCondition_template (fun c hc => ?_) ?_ hspace
  · rw [← Option.some.inj hc]
    decide
  · rw [stepPath, List.getLast?_append, List.getLast?_cons, List.getLast?_append, List.getLast?_cons,
      hlast]
    rfl

/-! ### One field -/

/-- One field of a step whose id is a word that does not end with `input` means the same
everywhere. -/
theorem meansSame_step (hstep : IsWord py stepId) (hend : ¬ "input".toList <:+ stepId) :
    MeansSame b (ValuePath.step stepId first []) where
  template := fun _ _ => resolve_step hstep
  output := by
    intro values value hvalue _ outputDefs name hdistinct hmem
    obtain ⟨output, houtput, hfollow⟩ := leadsTo_step hvalue
    obtain ⟨last, hlast, hsame⟩ := Option.bind_eq_some_iff.mp hfollow
    obtain rfl := Option.some.inj hsame
    have hget : Dict.get? output (String.ofList first.chars) = some last := hlast
    rw [get?_collectFinalOutputs hdistinct hmem, String.toList_ofList,
      sourceValue_step (dot_notMem_of_word hstep.2), houtput, Option.map_some, SlotOutputs.get,
      List.map_cons, List.map_nil, List.intercalate_singleton, hget]
    rfl
  condition := by
    intro values value hvalue results
    obtain ⟨output, houtput, hfollow⟩ := leadsTo_step hvalue
    obtain ⟨last, hlast, hsame⟩ := Option.bind_eq_some_iff.mp hfollow
    obtain rfl := Option.some.inj hsame
    have hget : stepGet values.stepOutputs [stepId, first.chars] = last := by
      rw [stepGet, houtput]
      exact getMember_of_into hlast
    rw [evaluateCondition_step, pythonExpr_stepPath hstep hend first.word,
      evalTruth_stepCall hstep first.word, hget]
    rfl
  forEach := fun values items h =>
    resolveArrayPath_step (dot_notMem_of_word hstep.2) h values.playbookInputs

theorem meansSame_input : MeansSame b (ValuePath.input first []) where
  template := fun _ _ => resolve_input
  output := fun _ _ _ h => h.elim
  condition := by
    intro values value hvalue results
    obtain ⟨last, hlast, hsame⟩ := Option.bind_eq_some_iff.mp hvalue
    obtain rfl := Option.some.inj hsame
    have hends := List.getLast?_eq_some_getLast first.word.1
    have hspace := py.isWord_space _ (first.word.2 _ (List.getLast_mem first.word.1))
    have htext : ("input".toList ++ '.' :: first.chars).getLast? =
        some (first.chars.getLast first.word.1) := by
      rw [List.getLast?_append, List.getLast?_cons, hends]
      rfl
    rw [text_input_one, evaluateCondition_template (fun c hc => ?_) htext hspace,
      pythonExpr_input first.word, evalTruth_inputCall first.word, getMember_of_into hlast]
    · rfl
    · rw [← Option.some.inj hc]
      decide
  forEach := by
    intro values items hvalue
    obtain ⟨last, hlast, hsame⟩ := Option.bind_eq_some_iff.mp hvalue
    obtain rfl := Option.some.inj hsame
    rw [resolveArrayPath_input, getMember_of_into hlast]
    rfl

/-! ### Other paths -/

def nest : List (Field py) → Json → Json
  | [], leaf => leaf
  | field :: fields, leaf => .obj [(String.ofList field.chars, nest fields leaf)]

def ValuePath.holding (leaf : Json) : ValuePath py → Values
  | .step stepId first rest =>
      { playbookInputs := []
        stepOutputs := Function.update (fun _ => none) (String.ofList stepId)
          (some [(String.ofList first.chars, nest rest leaf)])
        workflowContext := [] }
  | .input first rest =>
      { playbookInputs := [(String.ofList first.chars, nest rest leaf)]
        stepOutputs := fun _ => none
        workflowContext := [] }

theorem follow_nest (fields : List (Field py)) (leaf : Json) :
    follow (nest fields leaf) (keys fields) = some leaf := by
  induction fields with
  | nil => rfl
  | cons field fields ih =>
      rw [nest, keys, List.map_cons, follow_cons]
      show (Dict.get? [(String.ofList field.chars, nest fields leaf)] _).bind _ = _
      rw [Dict.get?_cons, if_pos rfl]
      exact ih

theorem stepOutputs_holding (leaf : Json) : ((ValuePath.step stepId first rest).holding leaf).stepOutputs =
    Function.update (fun _ => none) (String.ofList stepId)
      (some [(String.ofList first.chars, nest rest leaf)]) := rfl

theorem leadsTo_holding (path : ValuePath py) (leaf : Json) :
    path.leadsTo (path.holding leaf) = some leaf := by
  cases path with
  | step stepId first rest =>
      rw [ValuePath.leadsTo, stepOutputs_holding, Function.update_self]
      exact follow_nest (first :: rest) leaf
  | input first rest => exact follow_nest (first :: rest) leaf

theorem reparse_ne_bool (text : List Char) (flag : Bool) : reparse b text ≠ .bool flag := by
  rw [reparse]
  split
  · split
    · nofun
    · nofun
    · nofun
  · nofun

theorem not_meansSame_of_brace (hbrace : '}' ∈ stepId) :
    ¬ MeansSame b (ValuePath.step stepId first rest) := by
  intro h
  have htemplate := h.template _ _ (leadsTo_holding _ (.bool true))
  have hinside : '}' ∈ (ValuePath.step stepId first rest).text := by
    rw [text_step]
    exact List.mem_append_right _ (List.mem_cons_of_mem _ (List.mem_append_left _ hbrace))
  have hexact : exactVariable (trim (wholeMatch (ValuePath.step stepId first rest).text)) = none := by
    cases hexact : exactVariable (trim (wholeMatch (ValuePath.step stepId first rest).text)) with
    | none => rfl
    | some group =>
        obtain ⟨htrim, hgroup, -⟩ := exactVariable_eq_some_iff.mp hexact
        rw [trim_wholeMatch] at htrim
        rw [wholeMatch_inj htrim] at hinside
        exact absurd hinside hgroup
  rw [resolvePlaybookString, hexact] at htemplate
  obtain ⟨text, -, hparsed⟩ := Option.map_eq_some_iff.mp htemplate
  exact reparse_ne_bool text true hparsed

theorem MeansSame.sourceValue_eq {path : ValuePath py} (h : MeansSame b path) (hstep : path.IsStep)
    (leaf : Json) : sourceValue (path.holding leaf).stepOutputs path.text = some leaf := by
  have hdistinct : ([("value", String.ofList path.text)].map Prod.fst).Nodup :=
    List.nodup_singleton "value"
  have houtput := h.output _ _ (leadsTo_holding path leaf) hstep _ "value" hdistinct
    List.mem_cons_self
  rw [get?_collectFinalOutputs hdistinct List.mem_cons_self, String.toList_ofList] at houtput
  exact houtput

theorem not_meansSame_of_dot (hdot : '.' ∈ stepId) :
    ¬ MeansSame b (ValuePath.step stepId first rest) := by
  intro h
  have hvalue := h.sourceValue_eq trivial (.bool true)
  obtain ⟨front, back, rfl, hfront⟩ := List.eq_append_cons_of_mem hdot
  have hne : String.ofList front ≠ String.ofList (front ++ '.' :: back) := by
    intro hsame
    have hlength := congrArg List.length (String.ofList_inj.mp hsame)
    rw [List.length_append, List.length_cons] at hlength
    omega
  have hsplit : ∃ parts, (ValuePath.step (front ++ '.' :: back) first rest).text.splitOn '.' =
      "step".toList :: front :: parts := by
    refine ⟨(back ++ '.' :: List.intercalate ['.'] ((first :: rest).map Field.chars)).splitOn '.', ?_⟩
    rw [text_step, List.append_assoc, List.cons_append,
      List.splitOn_append_cons_self_of_not_mem (by decide),
      List.splitOn_append_cons_self_of_not_mem hfront]
  obtain ⟨parts, hparts⟩ := hsplit
  have hsource : sourceValue ((ValuePath.step (front ++ '.' :: back) first rest).holding
      (.bool true)).stepOutputs (ValuePath.step (front ++ '.' :: back) first rest).text = none := by
    rw [sourceValue, hparts, stepOutputs_holding]
    cases parts with
    | nil => rfl
    | cons part parts =>
        dsimp only
        rw [String.ofList_toList, if_pos rfl, Function.update_of_ne hne]
        rfl
  rw [hsource] at hvalue
  cases hvalue

theorem not_meansSame_of_deep {next : Field py} (hdot : '.' ∉ stepId) :
    ¬ MeansSame b (ValuePath.step stepId first (next :: rest)) := by
  intro h
  have hvalue := h.sourceValue_eq trivial (.bool true)
  have hne : String.ofList (List.intercalate ['.'] ((first :: next :: rest).map Field.chars)) ≠
      String.ofList first.chars := by
    intro hsame
    have hlength := congrArg List.length (String.ofList_inj.mp hsame)
    rw [List.map_cons, List.map_cons, List.intercalate_cons_cons, List.length_append,
      List.length_append, List.length_singleton] at hlength
    omega
  rw [sourceValue_step hdot, stepOutputs_holding, Function.update_self, Option.map_some,
    SlotOutputs.get, Dict.get?_cons, if_neg hne, Dict.get?_nil] at hvalue
  cases hvalue

theorem not_meansSame_input {next : Field py} :
    ¬ MeansSame b (ValuePath.input first (next :: rest)) := by
  intro h
  have hitems := h.forEach _ [] (leadsTo_holding _ (.arr []))
  rw [resolveArrayPath_input] at hitems
  have hmember : getMember (.obj ((ValuePath.input first (next :: rest)).holding
      (.arr [])).playbookInputs) first.chars = nest (next :: rest) (.arr []) := by
    rw [getMember, ValuePath.holding, Dict.get?_cons, if_pos rfl]
    rfl
  rw [hmember] at hitems
  cases hitems

theorem not_meansSame_of_raises (hraises : ∀ inputs outputs,
    evalTruth py inputs outputs (pythonExpr py (stepPath stepId first.chars)) = none) :
    ¬ MeansSame b (ValuePath.step stepId first []) := by
  intro h
  have hfalse := h.condition _ _ (leadsTo_holding _ (.bool false)) []
  rw [evaluateCondition_step, hraises] at hfalse
  cases hfalse

theorem raises_of_not_direct (hdot : '.' ∉ stepId)
    (hspelled : ∀ c ∈ stepId, py.isWord c = true ∨ c = '-')
    (h : ¬ (IsWord py stepId ∧ ¬ "input".toList <:+ stepId)) (inputs : Dict)
    (outputs : String → Option Dict) :
    evalTruth py inputs outputs (pythonExpr py (stepPath stepId first.chars)) = none := by
  by_cases hend : "input".toList <:+ stepId
  · obtain ⟨start, rfl⟩ := hend
    have hstart : '.' ∉ start := fun hmem => hdot (List.mem_append_left _ hmem)
    by_cases hword : ∀ c ∈ start, py.isWord c = true
    · -- The id is a word: the value of the step is called.
      have hstep : IsWord py (start ++ "input".toList) :=
        ⟨List.append_ne_nil_of_right_ne_nil _ (by decide), fun c hc =>
          (List.mem_append.mp hc).elim (hword c) (isWord_of_letters (by decide +kernel) c)⟩
      have hdict : IsWord py (start ++ "input_dict".toList) :=
        ⟨List.append_ne_nil_of_right_ne_nil _ (by decide), fun c hc =>
          (List.mem_append.mp hc).elim (hword c) (isWord_of_letters (by decide +kernel) c)⟩
      rw [pythonExpr_word_inputEnd hstep first.word]
      exact evalTruth_called hdict ⟨by decide, isWord_of_letters (by decide +kernel)⟩ first.word
    · rw [pythonExpr_not_word_inputEnd hstart hword first.word, evalTruth_step]
      exact py.unbound_call _ _ _ _ (fun c hc => hspelled c (List.mem_append_left _ hc)) first.word.2
  · have hword : ¬ IsWord py stepId := fun hword => h ⟨hword, hend⟩
    have htext : stepPath stepId first.chars = "step.".toList ++ (stepId ++ '.' :: first.chars) := rfl
    rw [pythonExpr_not_word hdot hword hend first.word, htext, evalTruth_step]
    refine py.unbound _ _ _ fun c hc => ?_
    rcases List.mem_append.mp hc with hc | hc
    · exact (hspelled c hc).imp_right .inr
    · rcases List.mem_cons.mp hc with rfl | hc
      · exact .inr (.inl rfl)
      · exact .inl (first.word.2 c hc)

/-- A path with one field, of the inputs or of a step whose id is a word that does not end with
`input`, means the same value everywhere. No other path does that is spelled with words and
hyphens. -/
theorem meansSame_iff (b : Builtins) (path : ValuePath py) :
    (path.Direct → MeansSame b path) ∧ (path.Spelled → MeansSame b path → path.Direct) := by
  cases path with
  | step stepId first rest =>
      cases rest with
      | nil =>
          refine ⟨fun h => meansSame_step h.1 h.2, fun hspelled hmeans => ?_⟩
          by_contra hdirect
          by_cases hdot : '.' ∈ stepId
          · exact not_meansSame_of_dot hdot hmeans
          · rcases hspelled with hmem | hbrace | hchars
            · exact hdot hmem
            · exact not_meansSame_of_brace hbrace hmeans
            · exact not_meansSame_of_raises (raises_of_not_direct hdot hchars hdirect) hmeans
      | cons next rest =>
          refine ⟨False.elim, fun _ hmeans => ?_⟩
          by_cases hdot : '.' ∈ stepId
          · exact not_meansSame_of_dot hdot hmeans
          · exact not_meansSame_of_deep hdot hmeans
  | input first rest =>
      cases rest with
      | nil => exact ⟨fun _ => meansSame_input, fun _ _ => trivial⟩
      | cons next rest => exact ⟨False.elim, fun _ hmeans => not_meansSame_input hmeans⟩

theorem bounds_of_isAlphanum {c : Char} (h : c.isAlphanum = true) :
    48 ≤ c.toNat ∧ c.toNat ≤ 122 := by
  simp only [Char.isAlphanum, Char.isAlpha, Char.isUpper, Char.isLower, Char.isDigit,
    Bool.or_eq_true, Bool.and_eq_true, decide_eq_true_eq, ge_iff_le, UInt32.le_iff_toNat_le] at h
  change ((65 ≤ c.toNat ∧ c.toNat ≤ 90) ∨ (97 ≤ c.toNat ∧ c.toNat ≤ 122)) ∨
    48 ≤ c.toNat ∧ c.toNat ≤ 57 at h
  omega

/-- An evaluator to which no name but `input_dict` and `_step_get` means anything, for words of
ASCII. -/
def asciiEvaluator : Evaluator where
  isWord := fun c => c.isAlphanum || c = '_'
  isWord_ascii := fun _ _ => rfl
  isWord_space := by
    intro c hc
    rw [Bool.or_eq_true, decide_eq_true_eq] at hc
    rcases hc with hc | rfl
    · obtain ⟨hlow, hhigh⟩ := bounds_of_isAlphanum hc
      exact isSpace_of_visible (by omega) (by omega)
    · decide
  truth := fun _ _ _ => none
  unbound := fun _ _ _ _ => rfl
  unbound_call := fun _ _ _ _ _ _ => rfl
  not_callable := fun _ _ _ _ _ _ _ _ => rfl
  resultsTruth := fun _ _ => none

def reportField : Field asciiEvaluator :=
  ⟨"report".toList, by decide, isWord_of_letters (by decide +kernel)⟩

def titleField : Field asciiEvaluator :=
  ⟨"title".toList, by decide, isWord_of_letters (by decide +kernel)⟩

/-- `step.make.report` means the same everywhere. -/
theorem report_meansSame :
    MeansSame asciiBuiltins (ValuePath.step "make".toList reportField []) :=
  (meansSame_iff asciiBuiltins (ValuePath.step "make".toList reportField [])).1
    ⟨⟨by decide, isWord_of_letters (by decide +kernel)⟩, by decide +kernel⟩

/-- `step.make.report.title` does not: no output collects the title. -/
theorem title_not_meansSame :
    ¬ MeansSame asciiBuiltins (ValuePath.step "make".toList reportField [titleField]) :=
  not_meansSame_of_deep (by decide)

end MindscapeLocalCore.Workflow.StepPaths
