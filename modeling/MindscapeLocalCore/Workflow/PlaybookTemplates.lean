import MindscapeLocalCore.Library.Json
import MindscapeLocalCore.Library.PythonInt

/-!
The templates of a playbook: `{{input.x}}`, `{{step.x.y}}`, `{{context.x}}`, and the variables of a
loop. A string that is one variable resolves to its value, any other to a text.
-/

namespace MindscapeLocalCore.Workflow.PlaybookTemplates

open Library Library.Json Library.JsonPaths Library.TextPieces Library.TextScan

structure Builtins where
  /-- what `int` reads beyond ASCII, and of how many digits -/
  digit : Char → Option ℕ
  maxDigits : ℕ
  /-- `str.isdigit` of one character -/
  isDigit : Char → Bool
  isDigit_ascii : ∀ c, c.toNat < 128 → isDigit c = c.isDigit
  str : Json → List Char
  str_text : ∀ text, str (.str text) = text.toList
  /-- `json.dumps` with `ensure_ascii=False` -/
  dumps : Json → List Char
  dumps_empty : dumps (.obj []) = ['{', '}']
  /-- `json.loads` of a text that begins with a bracket or a brace -/
  loads : List Char → Option (List Json ⊕ Dict)

structure Values where
  playbookInputs : Dict
  stepOutputs : String → Option Dict
  workflowContext : Dict

variable (b : Builtins)

/-! ### Paths -/

/-- `int(text)`; none where it raises. -/
def int (text : List Char) : Option ℤ := PythonInt.parseInt b.digit b.maxDigits (String.ofList text)

/-- `key, index_str = part.split('[')`, and the index; none where one of them raises. -/
def indexedPart (part : List Char) : Option (List Char × ℤ) :=
  match part.splitOn '[' with
  | [key, indexStr] => (int b (rstrip [']'] indexStr)).map fun index => (key, index)
  | _ => none

/-- `value.get(key)`, for what is an object. -/
def getMember (value : Json) (key : List Char) : Json :=
  match value with
  | .obj members => (Dict.get? members (String.ofList key)).getD .null
  | _ => .null

/-- `value[index]`, for what is a list with such an item. -/
def getItem (value : Json) (index : ℤ) : Json :=
  match value with
  | .arr items =>
      if 0 ≤ index ∧ index < items.length then items[index.toNat]?.getD .null else .null
  | _ => .null

/-- One part of a path. The key of an index is passed over where the value is no object. -/
def stepInto (value : Json) (part : List Char) : Option Json :=
  if '[' ∈ part then
    (indexedPart b part).map fun (key, index) =>
      match value with
      | .obj _ => getItem (getMember value key) index
      | _ => getItem value index
  else some (getMember value part)

/-- The value that the parts of a path lead to, where `None` ends the walk. -/
def walkWith (into : Json → List Char → Option Json) : Json → List (List Char) → Option Json
  | value, [] => some value
  | value, part :: parts =>
      match into value part with
      | none => none
      | some .null => some .null
      | some next => walkWith into next parts

def walk : Json → List (List Char) → Option Json := walkWith (stepInto b)

/-- `part.isdigit()` -/
def isNumeral (part : List Char) : Bool := !part.isEmpty && part.all b.isDigit

/-- One part of the path of `{{item.x}}`: an item of a list is named by its digits. -/
def itemInto (value : Json) (part : List Char) : Option Json :=
  match value with
  | .obj _ => some (getMember value part)
  | .arr _ => if isNumeral b part then (int b part).map (getItem value) else some .null
  | _ => some .null

def walkItem : Json → List (List Char) → Option Json := walkWith (itemInto b)

/-! ### Variables -/

/-- `PLAYBOOK_TEMPLATE_PATTERN` at the beginning of a text. -/
def readVariable : List Char → Option (List Char × ℕ)
  | '{' :: '{' :: rest =>
      match run (fun c => c ≠ '}') rest with
      | some (group, '}' :: '}' :: _) => some (group, group.length + 4)
      | _ => none
  | _ => none

/-- `PLAYBOOK_TEMPLATE_PATTERN.fullmatch(text)` -/
def exactVariable (text : List Char) : Option (List Char) :=
  match readVariable text with
  | some (group, length) => if length = text.length then some group else none
  | none => none

/-- `match.group(0)` -/
def wholeMatch (group : List Char) : List Char := '{' :: '{' :: (group ++ ['}', '}'])

def varType (parts : List (List Char)) : String := String.ofList (parts.headD [])

def varPath (parts : List (List Char)) : List Char := List.intercalate ['.'] parts.tail

/-- `var_path.split('.')` -/
def pathOf (parts : List (List Char)) : List (List Char) :=
  match parts.tail with
  | [] => [[]]
  | path => path

variable (values : Values)

/-- `step_outputs.get(step_id, {})` -/
def outputOf (stepId : List Char) : Dict := (values.stepOutputs (String.ofList stepId)).getD []

def resolveExact (varExpr : List Char) : Option Json :=
  let parts := varExpr.splitOn '.'
  if varType parts = "step" then
    match pathOf parts with
    | [] => some .null
    | [stepId] =>
        match values.stepOutputs (String.ofList stepId) with
        | some output => some (.obj output)
        | none => some .null
    | stepId :: outputPath => walk b (.obj (outputOf values stepId)) outputPath
  else if varType parts = "input" then walk b (.obj values.playbookInputs) (pathOf parts)
  else if varType parts = "context" then
    some ((Dict.get? values.workflowContext (String.ofList (varPath parts))).getD .null)
  else some .null

def textForm : Json → List Char
  | .arr items => List.intercalate ", ".toList (items.map b.str)
  | .obj members => b.dumps (.obj members)
  | value => b.str value

def itemText : Json → List Char
  | .arr items => b.dumps (.arr items)
  | .obj members => b.dumps (.obj members)
  | value => b.str value

def isNull : Json → Bool
  | .null => true
  | _ => false

/-- `value == text` -/
def isText (value : Json) (text : List Char) : Bool :=
  match value with
  | .str other => other.toList = text
  | _ => false

/-- `replace_var`; none where it raises, or where `sub` raises for what it returns. -/
def replaceVar (group : List Char) : Option (List Char) :=
  let parts := (trim group).splitOn '.'
  let loop := outputOf values "_loop".toList
  if varType parts = "input" then
    (walk b (.obj values.playbookInputs) (pathOf parts)).map fun value =>
      if isNull value then [] else textForm b value
  else if varType parts = "step" then
    match pathOf parts with
    | [] => some (wholeMatch group)
    | [stepId] =>
        let output := outputOf values stepId
        some (if output.isEmpty then wholeMatch group else b.dumps (.obj output))
    | stepId :: outputPath =>
        (walk b (.obj (outputOf values stepId)) outputPath).map fun value =>
          if isNull value || isText value (wholeMatch group) then wholeMatch group
          else textForm b value
  else if varType parts = "item" then
    let item := (Dict.get? loop "item").getD .null
    if isNull item then some (wholeMatch group)
    else if (varPath parts).isEmpty then some (itemText b item)
    else
      (walkItem b item (pathOf parts)).map fun value =>
        if isNull value then wholeMatch group else itemText b value
  else if varType parts = "index" then
    if (varPath parts).isEmpty then
      some (((Dict.get? loop "index").map b.str).getD (wholeMatch group))
    else some (wholeMatch group)
  else if varType parts = "context" then
    -- The value is what `sub` gets: nothing for `None`, and a `TypeError` for what is no text.
    match Dict.get? values.workflowContext (String.ofList (varPath parts)) with
    | none => some (wholeMatch group)
    | some .null => some []
    | some (.str text) => some text.toList
    | some _ => none
  else some (wholeMatch group)

/-- `PLAYBOOK_TEMPLATE_PATTERN.sub(replace_var, template_str)` -/
def substitute (text : List Char) : Option (List Char) :=
  subWith readVariable (replaceVar b values) text

def reparse (result : List Char) : Json :=
  if ['['].isPrefixOf result || ['{'].isPrefixOf result then
    match b.loads result with
    | some (.inl items) => .arr items
    | some (.inr members) => .obj members
    | none => .str (String.ofList result)
  else .str (String.ofList result)

/-- `_resolve_playbook_string`; none where it raises. -/
def resolvePlaybookString (templateStr : List Char) : Option Json :=
  match exactVariable (trim templateStr) with
  | some group => resolveExact b values (trim group)
  | none => (substitute b values templateStr).map (reparse b)

variable {b} {values} {group text after : List Char} {length : ℕ}

theorem eq_of_isText {value : Json} (h : isText value text = true) :
    value = .str (String.ofList text) := by
  cases value with
  | str other =>
      have hsame : other.toList = text := of_decide_eq_true h
      rw [← hsame, String.ofList_toList]
  | null => cases h
  | bool => cases h
  | num => cases h
  | arr => cases h
  | obj => cases h

/-! ### Walks -/

section Walks

variable {into : Json → List Char → Option Json} {value last : Json} {parts : List (List Char)}

theorem walkWith_isSome (h : ∀ value, ∀ part ∈ parts, (into value part).isSome) :
    (walkWith into value parts).isSome := by
  induction parts generalizing value with
  | nil => rfl
  | cons part parts ih =>
      obtain ⟨next, hnext⟩ := Option.isSome_iff_exists.mp (h value part List.mem_cons_self)
      have hrest : ∀ value, ∀ part ∈ parts, (into value part).isSome :=
        fun value part hpart => h value part (List.mem_cons_of_mem _ hpart)
      rw [walkWith, hnext]
      split
      · rename_i hnone
        cases hnone
      · rfl
      · exact ih hrest

theorem walkWith_of_follow {σ : Type} {text : σ → List Char} {steps : σ → List Step} {path : List σ}
    (hsteps : ∀ segment ∈ path, steps segment ≠ [])
    (hinto : ∀ segment ∈ path, ∀ value next, follow value (steps segment) = some next →
      into value (text segment) = some next)
    (h : follow value (path.flatMap steps) = some last) :
    walkWith into value (path.map text) = some last := by
  induction path generalizing value with
  | nil => exact h
  | cons segment path ih =>
      rw [List.flatMap_cons, follow_append] at h
      obtain ⟨next, hnext, hlast⟩ := Option.bind_eq_some_iff.mp h
      have hfirst := hinto segment List.mem_cons_self value next hnext
      have hrest := ih (fun other hother => hsteps other (List.mem_cons_of_mem _ hother))
        (fun other hother => hinto other (List.mem_cons_of_mem _ hother)) hlast
      rw [List.map_cons, walkWith, hfirst]
      split
      · rename_i hnone
        cases hnone
      · rename_i hnull
        obtain rfl := Option.some.inj hnull
        -- Nothing is in `None`: the path ends here.
        cases path with
        | nil => exact hlast
        | cons other path =>
            obtain ⟨step, others, hother⟩ := List.exists_cons_of_ne_nil
              (hsteps other (List.mem_cons_of_mem _ List.mem_cons_self))
            rw [List.flatMap_cons, hother, List.cons_append, follow_null_cons] at hlast
            cases hlast
      · rename_i hsome
        obtain rfl := Option.some.inj hsome
        exact hrest

theorem getMember_of_into {key : List Char}
    (h : (Step.key (String.ofList key)).into value = some last) : getMember value key = last := by
  cases value with
  | obj members =>
      have hget : Dict.get? members (String.ofList key) = some last := h
      rw [getMember, hget]
      rfl
  | null => cases h
  | bool => cases h
  | num => cases h
  | str => cases h
  | arr => cases h

end Walks

/-! ### Matches -/

theorem trim_wholeMatch (group : List Char) : trim (wholeMatch group) = wholeMatch group := by
  refine @trim_of_ends _ '{' '}' (by decide) (by decide) ?_
  have hends : '{' :: '{' :: (group ++ ['}', '}']) = ('{' :: '{' :: group ++ ['}']) ++ ['}'] := by
    simp
  rw [hends, List.getLast?_concat]

theorem wholeMatch_inj {group' : List Char} (h : wholeMatch group = wholeMatch group') :
    group = group' :=
  List.append_cancel_right (List.cons.inj (List.cons.inj h).2).2

theorem run_group (h : '}' ∉ group) (hne : group ≠ []) (rest : List Char) :
    run (fun c => c ≠ '}') (group ++ '}' :: rest) = some (group, '}' :: rest) := by
  refine run_append hne (fun c hc => ?_) fun c hc => ?_
  · refine decide_eq_true ?_
    rintro rfl
    exact h hc
  · rw [← Option.some.inj hc]
    decide

theorem readVariable_wholeMatch (h : '}' ∉ group) (hne : group ≠ []) :
    readVariable (wholeMatch group ++ after) = some (group, (wholeMatch group).length) := by
  have hlength : (wholeMatch group).length = group.length + 4 := by
    rw [wholeMatch, List.length_cons, List.length_cons, List.length_append]
    rfl
  rw [hlength, wholeMatch, List.cons_append, List.cons_append, List.append_assoc, readVariable]
  have hrun : run (fun c => decide (c ≠ '}')) (group ++ (['}', '}'] ++ after)) =
      some (group, '}' :: '}' :: after) := run_group h hne ('}' :: after)
  rw [hrun]
  rfl

theorem eq_of_readVariable (h : readVariable text = some (group, length)) :
    ∃ after, text = wholeMatch group ++ after ∧ length = (wholeMatch group).length ∧
      '}' ∉ group ∧ group ≠ [] := by
  rw [readVariable.eq_def] at h
  split at h
  · rename_i rest
    split at h
    · rename_i found after hrun
      obtain ⟨rfl, rfl⟩ := Prod.mk.inj (Option.some.inj h)
      obtain ⟨hrest, hfound, hall⟩ := eq_of_run hrun
      refine ⟨after, ?_, ?_, fun hmem => absurd (hall '}' hmem) (by decide), hfound⟩
      · rw [wholeMatch, List.cons_append, List.cons_append, List.append_assoc]
        exact congrArg (fun rest => '{' :: '{' :: rest) hrest
      · rw [wholeMatch, List.length_cons, List.length_cons, List.length_append]
        rfl
    · cases h
  · cases h

theorem exactVariable_eq_some_iff :
    exactVariable text = some group ↔ text = wholeMatch group ∧ '}' ∉ group ∧ group ≠ [] := by
  constructor
  · intro h
    rw [exactVariable] at h
    split at h
    · rename_i found length hread
      split at h
      · rename_i hlength
        obtain rfl := Option.some.inj h
        obtain ⟨after, rfl, rfl, hgroup, hne⟩ := eq_of_readVariable hread
        rw [List.length_append] at hlength
        have hafter : after = [] := List.length_eq_zero_iff.mp (by omega)
        rw [hafter, List.append_nil]
        exact ⟨rfl, hgroup, hne⟩
      · cases h
    · cases h
  · rintro ⟨rfl, hgroup, hne⟩
    have hread := @readVariable_wholeMatch group [] hgroup hne
    rw [List.append_nil] at hread
    rw [exactVariable, hread]
    exact if_pos rfl

theorem readVariable_eq_none (h : ∀ rest, text ≠ '{' :: '{' :: rest) :
    readVariable text = none := by
  cases hread : readVariable text with
  | none => rfl
  | some pair =>
      obtain ⟨after, htext, -⟩ := eq_of_readVariable hread
      rw [wholeMatch, List.cons_append, List.cons_append] at htext
      exact absurd htext (h _)

end MindscapeLocalCore.Workflow.PlaybookTemplates
