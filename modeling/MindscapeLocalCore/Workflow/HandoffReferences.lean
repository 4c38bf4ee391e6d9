import MindscapeLocalCore.Library.JsonText
import MindscapeLocalCore.Library.VariableWords
import MindscapeLocalCore.Workflow.HandoffInputs

/-!
Which references of a handoff plan are awaited and delivered: those that stand in a mapping
where the pattern matches them, and whose value is a text.
-/

namespace MindscapeLocalCore.Workflow.HandoffReferences

open HandoffPlan HandoffExecution HandoffInputs TemplatePattern Library Library.Json

/-- `$previous.<code>.outputs.<name>` or `$context.<key>`. -/
inductive Reference where
  | previous (code name : String)
  | context (key : String)

namespace Reference

def text : Reference → List Char
  | previous code name =>
      "$previous.".toList ++ code.toList ++ ".outputs.".toList ++ name.toList
  | context key => "$context.".toList ++ key.toList

/-- The groups that a match of the reference should have. -/
def pattern : Reference → Match
  | previous code name =>
      { kind := "previous".toList
        first := code.toList
        second := some "outputs".toList
        third := some name.toList }
  | context key =>
      { kind := "context".toList
        first := key.toList
        second := none
        third := none }

def Has (results : String → Option StepResult) (context : Dict) (value : Json) :
    Reference → Prop
  | previous code name => ∃ result, results code = some result ∧
      result.hasStatus "completed" = true ∧ result.outputs.get? name = some value
  | .context key => context.get? key = some value

end Reference

inductive Hole where
  | here
  | item (before : List Json) (hole : Hole) (after : List Json)
  | member (before : Dict) (key : String) (hole : Hole) (after : Dict)

def Hole.fill (value : Json) : Hole → Json
  | here => value
  | item before hole after => .arr (before ++ hole.fill value :: after)
  | member before key hole after => .obj (before ++ (key, hole.fill value) :: after)

/-- A reference in a text of an input, or of the mapping of that input. -/
structure Occurrence where
  input : String
  hole : Hole
  before : List Char
  reference : Reference
  after : List Char

namespace Occurrence

def chars (o : Occurrence) : List Char := o.before ++ (o.reference.text ++ o.after)

def text (o : Occurrence) : String := String.ofList o.chars

def In (step : WorkflowStep) (o : Occurrence) : Prop :=
  step.inputs.get? o.input = some (o.hole.fill (.str o.text)) ∨
    o.hole = .here ∧ (o.input, o.text) ∈ step.inputMapping

end Occurrence

variable (words : WordCharacters) (style : JsonText.Style)

def valueText : Json → String
  | .str text => text
  | value => JsonText.render style value

/-- The text around the reference as it is resolved, with a text in the place of the
reference. -/
def around (previous : String → Option Dict) (context : Dict) (o : Occurrence)
    (middle : List Char) : Option (List Char) := do
  let before ← substitute previous context (tokens words o.before)
  let after ← substitute previous context (tokens words o.after)
  return before ++ (middle ++ after)

/-- What the step should get: the value for a text that is just the reference, and the text
with the value's text in its place for a longer one. -/
def expected (previous : String → Option Dict) (context : Dict) (o : Occurrence) (value : Json) :
    Option Json :=
  if o.before = [] ∧ o.after = [] then some (o.hole.fill value)
  else (around words previous context o (valueText style value).toList).map fun chars =>
    o.hole.fill (.str (String.ofList chars))

/-- The inputs of the step are prepared, with what is expected in the place of the text. -/
def Delivers (step : WorkflowStep) (results : String → Option StepResult) (context : Dict)
    (o : Occurrence) (value : Json) : Prop :=
  ∃ resolved wanted,
    prepareWorkflowStepInputs words step (buildPreviousResults results) context = some resolved ∧
      expected words style (buildPreviousResults results) context o value = some wanted ∧
      resolved.get? o.input = some wanted

def Resolvable (step : WorkflowStep) (results : String → Option StepResult) (context : Dict) :
    Prop :=
  ∀ mapping ∈ step.inputMapping, ∀ m, .reference m ∈ tokens words mapping.2.toList →
    subText (replaceVar (buildPreviousResults results) context m) ≠ none

/-- The text is the mapping of the input, and the pattern matches the reference in it. -/
def Recognised (step : WorkflowStep) (o : Occurrence) : Prop :=
  o.hole = .here ∧ (o.input, o.text) ∈ step.inputMapping ∧
    ∃ earlier later, tokens words o.chars = earlier ++ .reference o.reference.pattern :: later ∧
      charsOf earlier = o.before

/-- A text among the inputs or the mappings of the step starts with a reference to the
playbook. -/
def Leads (step : WorkflowStep) (code : String) : Prop :=
  ∃ text ∈ referencingTexts step,
    '.' ∉ code.toList ∧ ∃ rest, text.toList = "$previous.".toList ++ code.toList ++ rest ∧
      (rest = [] ∨ ∃ behind, rest = '.' :: behind)

section Awaiting

theorem head_splitOn_iff {text code : List Char} :
    (text.splitOn '.')[0]? = some code ↔ '.' ∉ code ∧ ∃ rest, text = code ++ rest ∧
      (rest = [] ∨ ∃ behind, rest = '.' :: behind) := by
  have hhead : ∀ {code rest : List Char}, '.' ∉ code →
      (rest = [] ∨ ∃ behind, rest = '.' :: behind) →
        ((code ++ rest).splitOn '.')[0]? = some code := by
    rintro code rest hcode (rfl | ⟨behind, rfl⟩)
    · rw [List.append_nil, List.splitOn_eq_singleton hcode]
      rfl
    · rw [List.splitOn_append_cons_self, List.splitOn_eq_singleton hcode]
      rfl
  constructor
  · intro h
    obtain ⟨hsplit, htake, hdrop⟩ := span_spec (fun c => c != '.') text
    have hnot : '.' ∉ text.takeWhile fun c => c != '.' := fun hmem => by
      have hc := htake '.' hmem
      exact absurd hc (by decide)
    have hrest : text.dropWhile (fun c => c != '.') = [] ∨
        ∃ behind, text.dropWhile (fun c => c != '.') = '.' :: behind := by
      cases hdropped : text.dropWhile fun c => c != '.' with
      | nil => exact .inl rfl
      | cons c behind =>
          rw [hdropped] at hdrop
          have hc := hdrop c rfl
          rw [bne_eq_false_iff_eq] at hc
          exact .inr ⟨behind, by rw [hc]⟩
    have htaken := hhead hnot hrest
    rw [← hsplit, h] at htaken
    rw [Option.some.inj htaken]
    exact ⟨hnot, _, hsplit, hrest⟩
  · rintro ⟨hcode, rest, rfl, hrest⟩
    exact hhead hcode hrest

theorem referencedCode_eq_some_iff {text code : String} :
    referencedCode text = some code ↔ '.' ∉ code.toList ∧
      ∃ rest, text.toList = "$previous.".toList ++ code.toList ++ rest ∧
        (rest = [] ∨ ∃ behind, rest = '.' :: behind) := by
  rw [referencedCode, PythonText.startsWith]
  by_cases hstart : "$previous.".toList.isPrefixOf text.toList = true
  · obtain ⟨behind, hbehind⟩ := List.isPrefixOf_iff_prefix.mp hstart
    have hsplit : text.toList.splitOn '.' = "$previous".toList :: behind.splitOn '.' := by
      have hdot : text.toList = "$previous".toList ++ '.' :: behind := hbehind.symm
      have hword : '.' ∉ "$previous".toList := by decide
      rw [hdot, List.splitOn_append_cons_self, List.splitOn_eq_singleton hword]
      rfl
    have hcode : (PythonText.split '.' text)[1]? = some code ↔
        (behind.splitOn '.')[0]? = some code.toList := by
      rw [PythonText.split, hsplit, List.map_cons, List.getElem?_cons_succ, List.getElem?_map,
        Option.map_eq_some_iff]
      constructor
      · rintro ⟨chars, hchars, rfl⟩
        rw [hchars, String.toList_ofList]
      · exact fun h => ⟨_, h, String.ofList_toList⟩
    rw [if_pos hstart, hcode, head_splitOn_iff, ← hbehind]
    refine and_congr_right fun _ => exists_congr fun rest => and_congr_left' ?_
    rw [List.append_assoc]
    exact List.append_cancel_left_eq _ _ _ ▸ Iff.rfl
  · rw [if_neg hstart]
    refine iff_of_false nofun ?_
    rintro ⟨-, rest, htext, -⟩
    refine hstart (List.isPrefixOf_iff_prefix.mpr ⟨code.toList ++ rest, ?_⟩)
    rw [htext, List.append_assoc]

theorem mem_dependencies_iff {plan : List WorkflowStep} {step : WorkflowStep} {code : String} :
    code ∈ dependencies plan step ↔
      Leads step code ∧ code ∈ plan.map WorkflowStep.playbookCode := by
  rw [dependencies, List.mem_toFinset, List.mem_filter, decide_eq_true_iff, List.mem_filterMap,
    Leads]
  simp only [referencedCode_eq_some_iff]

theorem awaited_iff {plan : List WorkflowStep} {step : WorkflowStep} (hstep : step ∈ plan)
    {code : String} (hcode : code ∈ plan.map WorkflowStep.playbookCode) :
    code ∈ buildDependencyGraph plan step.playbookCode ↔
      ∃ entry, (step.playbookCode, entry) ∈ pendingSteps plan ∧ Leads entry.step code := by
  have hkey : step.playbookCode ∈ (pendingSteps plan).map Prod.fst := by
    refine ItemDict.mem_map_fst_updateItems.mpr (.inl ?_)
    rw [map_fst_entries]
    exact List.mem_map_of_mem hstep
  obtain ⟨⟨key, entry⟩, hitem, rfl⟩ := List.mem_map.mp hkey
  rw [buildDependencyGraph_eq hitem, mem_dependencies_iff, and_iff_left hcode]
  constructor
  · exact fun h => ⟨entry, hitem, h⟩
  · rintro ⟨other, hother, h⟩
    rw [← (Prod.mk.inj (eq_of_code_eq hother hitem rfl)).2]
    exact h

end Awaiting

section Delivery

variable {words style} {step : WorkflowStep} {results : String → Option StepResult}
  {context : Dict} {o : Occurrence} {value : Json}

theorem chars_previous (code name : String) :
    (Reference.previous code name).pattern.chars = (Reference.previous code name).text := by
  have hprevious : "$previous.".toList = '$' :: ("previous".toList ++ ['.']) := by decide
  have houtputs : ".outputs.".toList = '.' :: ("outputs".toList ++ ['.']) := by decide
  unfold Reference.text Reference.pattern Match.chars dotted
  rw [hprevious, houtputs]
  simp only [List.append_assoc, List.cons_append, List.nil_append]

theorem chars_context (key : String) :
    (Reference.context key).pattern.chars = (Reference.context key).text := by
  have hcontext : "$context.".toList = '$' :: ("context".toList ++ ['.']) := by decide
  unfold Reference.text Reference.pattern Match.chars dotted
  rw [hcontext]
  simp only [List.append_assoc, List.cons_append, List.nil_append, List.append_nil]

theorem chars_pattern : ∀ reference : Reference, reference.pattern.chars = reference.text
  | .previous code name => chars_previous code name
  | .context key => chars_context key

theorem replaceVar_context {key : String} (hvalue : context.get? key = some value) :
    replaceVar (buildPreviousResults results) context (Reference.context key).pattern = value := by
  have hkind : "context".toList ≠ "previous".toList := by decide
  unfold replaceVar Reference.pattern
  simp only [if_neg hkind, if_true, String.ofList_toList, hvalue, Option.getD_some]

theorem replaceVar_previous {code name : String} {result : StepResult}
    (hresult : results code = some result) (hvalue : result.outputs.get? name = some value) :
    replaceVar (buildPreviousResults results) context (Reference.previous code name).pattern =
      value := by
  have hne : result.outputs ≠ [] := by
    intro hnil
    rw [hnil] at hvalue
    cases hvalue
  have hprevious : buildPreviousResults results code = some result.outputs := by
    rw [buildPreviousResults, hresult]
    exact if_neg hne
  have hkind : (Reference.previous code name).pattern.kind = "previous".toList := rfl
  have houtputs : "outputs".toList = "outputs".toList := rfl
  rw [replaceVar, if_pos hkind]
  refine (if_pos houtputs).trans ?_
  unfold Reference.pattern
  rw [String.ofList_toList, String.ofList_toList, hprevious, Option.getD_some, hvalue,
    Option.getD_some]

theorem replaceVar_pattern : ∀ {reference : Reference}, reference.Has results context value →
    replaceVar (buildPreviousResults results) context reference.pattern = value
  | .previous _ _, ⟨_, hresult, _, hvalue⟩ => replaceVar_previous hresult hvalue
  | .context _, hvalue => replaceVar_context hvalue

theorem substitute_ne_none_of_resolvable (h : Resolvable words step results context)
    {mapping : String × String} (hmapping : mapping ∈ step.inputMapping) :
    substitute (buildPreviousResults results) context (tokens words mapping.2.toList) ≠ none := by
  refine substitute_ne_none_iff.mpr fun part hpart => ?_
  cases part with
  | character c => exact nofun
  | reference m => exact h mapping hmapping m hpart

theorem resolvable_iff : Resolvable words step results context ↔
    prepareWorkflowStepInputs words step (buildPreviousResults results) context ≠ none := by
  rw [prepare_ne_none_iff]
  constructor
  · intro h mapping hmapping hnone
    rw [resolveWorkflowMapping, Option.map_eq_none_iff] at hnone
    exact substitute_ne_none_of_resolvable h hmapping hnone
  · intro h mapping hmapping m hm
    have hne : substitute (buildPreviousResults results) context
        (tokens words mapping.2.toList) ≠ none := by
      intro hnone
      exact h mapping hmapping (by rw [resolveWorkflowMapping, hnone]; rfl)
    exact substitute_ne_none_iff.mp hne _ hm

theorem around_eq_some {previous : String → Option Dict} {middle chars : List Char}
    (h : around words previous context o middle = some chars) :
    ∃ before after, chars = before ++ (middle ++ after) ∧
      ∀ other, around words previous context o other = some (before ++ (other ++ after)) := by
  rw [around] at h
  obtain ⟨before, hbefore, h⟩ := Option.bind_eq_some_iff.mp h
  obtain ⟨after, hafter, h⟩ := Option.bind_eq_some_iff.mp h
  refine ⟨before, after, (Option.some.inj h).symm, fun other => ?_⟩
  rw [around, hbefore, hafter]
  rfl

theorem expected_text {previous : String → Option Dict} (text : String) :
    expected words style previous context o (.str text) =
      (around words previous context o text.toList).map fun chars =>
        o.hole.fill (.str (String.ofList chars)) := by
  rw [expected]
  split
  · rename_i hbare
    rw [around, hbare.1, hbare.2]
    show _ = some (o.hole.fill (.str (String.ofList ([] ++ (text.toList ++ [])))))
    rw [List.nil_append, List.append_nil, String.ofList_toList]
  · rfl

theorem Recognised.parts (h : Recognised words step o) :
    tokens words o.text.toList =
      tokens words o.before ++ .reference o.reference.pattern :: tokens words o.after := by
  obtain ⟨-, -, earlier, later, hparts, hbefore⟩ := h
  have hchars : o.before ++ (o.reference.text ++ charsOf later) = o.chars := by
    rw [← charsOf_tokens words o.chars, hparts, charsOf_append, hbefore, ← chars_pattern]
    rfl
  have hafter : charsOf later = o.after :=
    List.append_cancel_left (List.append_cancel_left hchars)
  have hearlier := (tokens_cut hparts).1
  have hshifted : tokens words o.chars =
      (earlier ++ [.reference o.reference.pattern]) ++ later := by
    rw [hparts, List.append_cons]
  have hlater := (tokens_cut hshifted).2
  rw [hbefore] at hearlier
  rw [hafter] at hlater
  rw [Occurrence.text, String.toList_ofList, hearlier, hlater, hparts]

theorem Recognised.substitute_eq (h : Recognised words step o)
    (hvalue : o.reference.Has results context value) {replaced : List Char}
    (hreplaced : subText value = some replaced) :
    substitute (buildPreviousResults results) context (tokens words o.text.toList) =
      around words (buildPreviousResults results) context o replaced := by
  rw [h.parts, substitute_append, around]
  refine congrArg (Option.bind _) (funext fun before => ?_)
  rw [substitute, partText, replaceVar_pattern hvalue, hreplaced]
  cases substitute (buildPreviousResults results) context (tokens words o.after) with
  | none => rfl
  | some after => rfl

theorem delivers_iff (hkeys : (step.inputMapping.map Prod.fst).Nodup)
    (h : Recognised words step o) (hvalue : o.reference.Has results context value) :
    Delivers words style step results context o value ↔
      (∃ text, value = .str text) ∧ Resolvable words step results context := by
  obtain ⟨hhere, hmapping, -⟩ := id h
  constructor
  · rintro ⟨resolved, wanted, hprepared, hexpected, hresolved⟩
    have hresolvable : Resolvable words step results context := by
      rw [resolvable_iff, hprepared]
      exact nofun
    refine ⟨?_, hresolvable⟩
    obtain ⟨text, htext, hget⟩ :=
      (get?_foldlM hkeys hprepared o.input).1 (o.input, o.text) hmapping rfl
    have hpart : .reference o.reference.pattern ∈ tokens words o.text.toList := by
      rw [h.parts]
      exact List.mem_append_right _ List.mem_cons_self
    have hsub := hresolvable _ hmapping _ hpart
    rw [replaceVar_pattern hvalue] at hsub
    rw [hget] at hresolved
    cases value with
    | str text => exact ⟨text, rfl⟩
    | null =>
        -- `None` is replaced by nothing
        exfalso
        have hnull : subText .null = some [] := rfl
        rw [resolveWorkflowMapping, h.substitute_eq hvalue hnull] at htext
        obtain ⟨chars, hchars, rfl⟩ := Option.map_eq_some_iff.mp htext
        obtain ⟨before, after, rfl, hother⟩ := around_eq_some hchars
        rw [expected, hother, hhere] at hexpected
        split at hexpected
        · rw [← Option.some.inj hexpected] at hresolved
          cases hresolved
        · rw [← Option.some.inj hexpected] at hresolved
          have hsame := String.ofList_injective (Json.str.inj (Option.some.inj hresolved))
          have hlength := congrArg List.length hsame
          have hpositive : 0 < (valueText style .null).toList.length := by
            show 0 < "null".toList.length
            decide
          simp only [List.length_append, List.length_nil] at hlength
          omega
    | _ => exact absurd rfl hsub
  · rintro ⟨⟨text, rfl⟩, hresolvable⟩
    obtain ⟨resolved, hprepared⟩ := Option.ne_none_iff_exists'.mp (resolvable_iff.mp hresolvable)
    obtain ⟨found, hfound, hget⟩ :=
      (get?_foldlM hkeys hprepared o.input).1 (o.input, o.text) hmapping rfl
    have htext : subText (.str text) = some text.toList := rfl
    rw [resolveWorkflowMapping, h.substitute_eq hvalue htext] at hfound
    refine ⟨resolved, .str found, hprepared, ?_, hget⟩
    obtain ⟨chars, hchars, rfl⟩ := Option.map_eq_some_iff.mp hfound
    rw [expected_text, hhere, hchars]
    rfl

end Delivery

section Recognition

variable {words style} {step : WorkflowStep} {o : Occurrence} {code name : String}

def single (code name text : String) : String → Option StepResult :=
  Function.update (fun _ => none) code (some
    { status := .str "completed"
      outputs := [(name, .str text)]
      retriesExhausted := false
      details := [] })

/-- The text of a part, with a variable for the reference. -/
def word (m : Match) : Token → List (Option Char)
  | .character c => [some c]
  | .reference found => if found = m then [none] else found.chars.map some

theorem has_single (text : String) :
    (Reference.previous code name).Has (single code name text) [] (.str text) := by
  refine ⟨_, Function.update_self .., rfl, ?_⟩
  rw [Dict.get?_cons, if_pos rfl]

theorem previous_single {text code' : String} (hne : code' ≠ code) :
    buildPreviousResults (single code name text) code' = none := by
  have hnone : single code name text code' = none := Function.update_of_ne hne ..
  rw [buildPreviousResults, hnone]

theorem previous_single_self {text : String} :
    buildPreviousResults (single code name text) code = some [(name, .str text)] := by
  rw [buildPreviousResults, single, Function.update_self]
  rfl

theorem replaceVar_single {text : String} {m : Match}
    (hne : m ≠ (Reference.previous code name).pattern) :
    replaceVar (buildPreviousResults (single code name text)) [] m =
      .str (String.ofList m.chars) := by
  obtain ⟨kind, first, second, third⟩ := m
  rw [replaceVar]
  by_cases hkind : kind = "previous".toList
  · rw [if_pos hkind]
    cases second with
    | none => rfl
    | some second =>
        cases third with
        | none => rfl
        | some third =>
            by_cases houtputs : second = "outputs".toList
            · refine (if_pos houtputs).trans ?_
              by_cases hcode : String.ofList first = code
              · have hname : String.ofList third ≠ name := by
                  intro hname
                  have hfirst : first = code.toList := by rw [← hcode, String.toList_ofList]
                  have hthird : third = name.toList := by rw [← hname, String.toList_ofList]
                  refine hne ?_
                  rw [hkind, hfirst, houtputs, hthird]
                  rfl
                rw [hcode, previous_single_self, Option.getD_some, Dict.get?_cons, if_neg hname]
                rfl
              · rw [previous_single hcode]
                rfl
            · exact if_neg houtputs
  · rw [if_neg hkind]
    by_cases hcontext : kind = "context".toList
    · rw [if_pos hcontext]
      rfl
    · rw [if_neg hcontext]

theorem substitute_single {text : String} (parts : List Token) :
    substitute (buildPreviousResults (single code name text)) [] parts =
      some (VariableWords.fill text.toList
        (parts.flatMap (word (Reference.previous code name).pattern))) := by
  induction parts with
  | nil => rfl
  | cons part parts ih =>
      have hpart : partText (buildPreviousResults (single code name text)) [] part =
          some (VariableWords.fill text.toList
            (word (Reference.previous code name).pattern part)) := by
        cases part with
        | character c => rfl
        | reference m =>
            rw [partText, word]
            by_cases hm : m = (Reference.previous code name).pattern
            · rw [hm, replaceVar_pattern (has_single text), if_pos rfl]
              show some text.toList = some (text.toList ++ [])
              rw [List.append_nil]
            · rw [replaceVar_single hm, if_neg hm, VariableWords.fill_map_some]
              show some (String.ofList m.chars).toList = _
              rw [String.toList_ofList]
      rw [substitute, hpart, ih, List.flatMap_cons, VariableWords.fill_append]
      rfl

theorem fill_word (m : Match) (parts : List Token) :
    VariableWords.fill m.chars (parts.flatMap (word m)) = charsOf parts := by
  induction parts with
  | nil => rfl
  | cons part parts ih =>
      rw [List.flatMap_cons, VariableWords.fill_append, ih]
      show _ = part.chars ++ charsOf parts
      refine congrArg (· ++ charsOf parts) ?_
      cases part with
      | character c => rfl
      | reference found =>
          rw [word]
          split
          · rename_i hfound
            rw [hfound]
            exact List.append_nil m.chars
          · exact VariableWords.fill_map_some m.chars found.chars

theorem word_cases (m : Match) (part : Token) : word m part = [none] ∨ none ∉ word m part := by
  cases part with
  | character c => exact .inr (by simp [word])
  | reference found =>
      rw [word]
      split
      · exact .inl rfl
      · exact .inr (by simp)

theorem eq_pattern_of_word {m : Match} {part : Token} (h : word m part = [none]) :
    part = .reference m := by
  cases part with
  | character c => cases h
  | reference found =>
      rw [word] at h
      split at h
      · rename_i hfound
        rw [hfound]
      · have hmem : none ∈ found.chars.map some := by
          rw [h]
          exact List.mem_singleton_self none
        simp at hmem

theorem Hole.eq_here_of_fill_str {hole : Hole} {value : Json} {text : String}
    (h : hole.fill value = .str text) : hole = .here := by
  cases hole with
  | here => rfl
  | item => cases h
  | member => cases h

theorem Hole.fill_injective {hole : Hole} {value value' : Json}
    (h : hole.fill value = hole.fill value') : value = value' := by
  induction hole with
  | here => exact h
  | item before hole after ih =>
      have hitems := List.append_cancel_left (Json.arr.inj h)
      exact ih (List.cons.inj hitems).1
  | member before key hole after ih =>
      have hmembers := List.append_cancel_left (Json.obj.inj h)
      exact ih (Prod.mk.inj (List.cons.inj hmembers).1).2

theorem resolvable_single (text : String) :
    Resolvable words step (single code name text) [] := by
  intro mapping _ m _
  by_cases hm : m = (Reference.previous code name).pattern
  · rw [hm, replaceVar_pattern (has_single text)]
    exact nofun
  · rw [replaceVar_single hm]
    exact nofun

theorem recognised_of_words {mapping : List Char}
    (hwords : (tokens words mapping).flatMap (word (Reference.previous code name).pattern) =
      (tokens words o.before).flatMap (word (Reference.previous code name).pattern) ++
        none :: (tokens words o.after).flatMap (word (Reference.previous code name).pattern))
    (hreference : o.reference = .previous code name) :
    mapping = o.chars ∧
      ∃ earlier later, tokens words mapping = earlier ++ .reference o.reference.pattern :: later ∧
        charsOf earlier = o.before := by
  constructor
  · have hfill := congrArg (VariableWords.fill (Reference.previous code name).pattern.chars) hwords
    rw [fill_word, VariableWords.fill_append, fill_word, VariableWords.fill_cons, fill_word,
      charsOf_tokens, charsOf_tokens, charsOf_tokens] at hfill
    rw [hfill, Occurrence.chars, hreference, ← chars_pattern]
    rfl
  · obtain ⟨earlier, part, later, hparts, hpart, hbefore⟩ :=
      VariableWords.exists_piece (word_cases _) hwords
    rw [eq_pattern_of_word hpart] at hparts
    refine ⟨earlier, later, hreference ▸ hparts, ?_⟩
    rw [← fill_word (Reference.previous code name).pattern, hbefore, fill_word, charsOf_tokens]

theorem recognised_of_delivers (style : JsonText.Style) (hkeys : (step.inputMapping.map Prod.fst).Nodup)
    (hin : o.In step) (hreference : o.reference = .previous code name)
    (h : ∀ text, Delivers words style step (single code name text) [] o (.str text)) :
    Recognised words step o := by
  have hchars : Nontrivial Char := ⟨'a', 'b', by decide⟩
  -- the text that is expected, with a variable for the value
  generalize hbefore : (tokens words o.before).flatMap
    (word (Reference.previous code name).pattern) = before
  generalize hafter : (tokens words o.after).flatMap
    (word (Reference.previous code name).pattern) = after
  have hdelivered : ∀ text : String, ∃ resolved,
      prepareWorkflowStepInputs words step (buildPreviousResults (single code name text)) [] =
        some resolved ∧
      resolved.get? o.input = some (o.hole.fill (.str (String.ofList
        (VariableWords.fill text.toList (before ++ none :: after))))) := by
    intro text
    obtain ⟨resolved, wanted, hprepared, hexpected, hresolved⟩ := h text
    refine ⟨resolved, hprepared, ?_⟩
    rw [expected_text, around, substitute_single, substitute_single, hbefore, hafter] at hexpected
    rw [hresolved, ← hexpected, VariableWords.fill_append, VariableWords.fill_cons]
    rfl
  by_cases hmapped : o.input ∈ step.inputMapping.map Prod.fst
  · obtain ⟨mapping, hmapping, hinput⟩ := List.mem_map.mp hmapped
    have hresolve : ∀ text : String, o.hole = .here ∧
        VariableWords.fill text.toList ((tokens words mapping.2.toList).flatMap
          (word (Reference.previous code name).pattern)) =
        VariableWords.fill text.toList (before ++ none :: after) := by
      intro text
      obtain ⟨resolved, hprepared, hresolved⟩ := hdelivered text
      obtain ⟨value, hvalue, hget⟩ :=
        (get?_foldlM hkeys hprepared o.input).1 mapping hmapping hinput
      rw [resolveWorkflowMapping, substitute_single] at hvalue
      rw [hget] at hresolved
      have hsame := Option.some.inj hresolved
      have hhere := Hole.eq_here_of_fill_str hsame.symm
      rw [hhere, ← Option.some.inj hvalue] at hsame
      exact ⟨hhere, String.ofList_injective (Json.str.inj hsame)⟩
    have hwords : (tokens words mapping.2.toList).flatMap
        (word (Reference.previous code name).pattern) = before ++ none :: after := by
      refine VariableWords.eq_of_fill_eq fun value => ?_
      have hvalue := (hresolve (String.ofList value)).2
      rw [String.toList_ofList] at hvalue
      exact hvalue
    rw [← hbefore, ← hafter] at hwords
    obtain ⟨htext, hrecognised⟩ := recognised_of_words hwords hreference
    refine ⟨(hresolve "").1, ?_, htext ▸ hrecognised⟩
    rw [Occurrence.text, ← htext, String.ofList_toList, ← hinput]
    exact hmapping
  · exfalso
    have hinput : step.inputs.get? o.input = some (o.hole.fill (.str o.text)) := by
      refine hin.resolve_right fun hmapping => hmapped ?_
      exact List.mem_map_of_mem hmapping.2
    have hconstant : o.chars.map some = before ++ none :: after := by
      refine VariableWords.eq_of_fill_eq fun value => ?_
      obtain ⟨resolved, hprepared, hresolved⟩ := hdelivered (String.ofList value)
      rw [(get?_foldlM hkeys hprepared o.input).2 hmapped, hinput] at hresolved
      have hsame := Json.str.inj (Hole.fill_injective (Option.some.inj hresolved))
      rw [VariableWords.fill_map_some]
      rw [Occurrence.text, String.toList_ofList] at hsame
      exact String.ofList_injective hsame
    have hmem : none ∈ o.chars.map some := by
      rw [hconstant]
      exact List.mem_append_right before List.mem_cons_self
    simp at hmem

end Recognition

/-- A reference to an output of another step is awaited and delivered for every text value
exactly when the kept step leads with a reference to that playbook and the pattern recognises
the reference in the mapping of the input; and a recognised reference, also one to the
context, is delivered exactly when its value is a text and nothing in the mappings raises. -/
theorem reference_delivered_iff {plan : List WorkflowStep} {step : WorkflowStep}
    (hstep : step ∈ plan) (hkeys : (step.inputMapping.map Prod.fst).Nodup) {o : Occurrence}
    (hin : o.In step) :
    (∀ code name, o.reference = .previous code name →
      code ∈ plan.map WorkflowStep.playbookCode →
        ((code ∈ buildDependencyGraph plan step.playbookCode ∧
            ∀ results context text, o.reference.Has results context (.str text) →
              Resolvable words step results context →
                Delivers words style step results context o (.str text)) ↔
          (∃ entry, (step.playbookCode, entry) ∈ pendingSteps plan ∧ Leads entry.step code) ∧
            Recognised words step o)) ∧
      (Recognised words step o → ∀ results context value,
        o.reference.Has results context value →
          (Delivers words style step results context o value ↔
            (∃ text, value = .str text) ∧ Resolvable words step results context)) := by
  constructor
  · intro code name hreference hcode
    rw [awaited_iff hstep hcode]
    refine and_congr_right fun _ => ⟨fun h => ?_, fun h results context text hvalue hresolvable => ?_⟩
    · refine recognised_of_delivers style hkeys hin hreference fun text => ?_
      exact h _ _ _ (hreference ▸ has_single text) (resolvable_single text)
    · exact (delivers_iff hkeys h hvalue).mpr ⟨⟨text, rfl⟩, hresolvable⟩
  · intro h results context value hvalue
    exact delivers_iff hkeys h hvalue

def ascii : WordCharacters :=
  { isWord := fun c => c.isAlphanum || c = '_'
    dot := by decide }

def compact : JsonText.Style :=
  { itemSeparator := ","
    keySeparator := ":"
    number := fun _ => "0" }

def draft : WorkflowStep :=
  { playbookCode := "draft"
    inputs := []
    inputMapping := []
    condition := none
    errorHandling := .retryThenStop }

def publish : WorkflowStep :=
  { draft with
    playbookCode := "publish"
    inputMapping := [("pages", "$previous.draft.outputs.pages")] }

/-- The mapping of `publish`, which is just the reference. -/
def pages : Occurrence :=
  { input := "pages"
    hole := .here
    before := []
    reference := .previous "draft" "pages"
    after := [] }

theorem pages_in_publish : pages.In publish :=
  .inr ⟨rfl, List.mem_singleton.mpr (by decide)⟩

theorem reference_delivered_iff_pages :
    (∀ code name, pages.reference = .previous code name →
      code ∈ [draft, publish].map WorkflowStep.playbookCode →
        ((code ∈ buildDependencyGraph [draft, publish] "publish" ∧
            ∀ results context text, pages.reference.Has results context (.str text) →
              Resolvable ascii publish results context →
                Delivers ascii compact publish results context pages (.str text)) ↔
          (∃ entry, ("publish", entry) ∈ pendingSteps [draft, publish] ∧
              Leads entry.step code) ∧ Recognised ascii publish pages)) ∧
      (Recognised ascii publish pages → ∀ results context value,
        pages.reference.Has results context value →
          (Delivers ascii compact publish results context pages value ↔
            (∃ text, value = .str text) ∧ Resolvable ascii publish results context)) :=
  reference_delivered_iff ascii compact (List.mem_cons_of_mem _ (List.mem_singleton_self _))
    (by decide) pages_in_publish

/-- `draft` has completed with three pages. -/
def threePages : String → Option StepResult :=
  Function.update (fun _ => none) "draft" (some
    { status := .str "completed"
      outputs := [("pages", Json.nat 3)]
      retriesExhausted := false
      details := [] })

/-- A number is not delivered: the inputs are not prepared at all. -/
theorem number_not_delivered :
    pages.In publish ∧ pages.reference.Has threePages [] (Json.nat 3) ∧
      prepareWorkflowStepInputs ascii publish (buildPreviousResults threePages) [] = none ∧
      ¬ Delivers ascii compact publish threePages [] pages (Json.nat 3) := by
  have hprepared :
      prepareWorkflowStepInputs ascii publish (buildPreviousResults threePages) [] = none := rfl
  refine ⟨pages_in_publish, ⟨_, rfl, rfl, rfl⟩, hprepared, ?_⟩
  rintro ⟨resolved, wanted, hresolved, -⟩
  rw [hprepared] at hresolved
  cases hresolved

end MindscapeLocalCore.Workflow.HandoffReferences
