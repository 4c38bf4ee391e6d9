import MindscapeLocalCore.Workflow.PlaybookTemplates

/-!
The conditions of steps. A condition between braces is rewritten to an expression of Python, which
is evaluated; an expression that raises lets the step run.
-/

namespace MindscapeLocalCore.Workflow.StepConditions

open Library Library.Json Library.PythonText Library.TextPieces Library.TextScan PlaybookTemplates

/-- `'word'` -/
def quoted (word : List Char) : List Char := '\'' :: (word ++ ['\''])

def arguments : List (List Char) → List Char
  | [] => [')']
  | [word] => quoted word ++ [')']
  | word :: words => quoted word ++ ',' :: ' ' :: arguments words

def inputStart : List Char := "input_dict.get(".toList

def stepStart : List Char := "_step_get(".toList

/-- `input_dict.get('name')` -/
def inputCall (words : List (List Char)) : List Char := inputStart ++ arguments words

/-- `_step_get('step', 'name')` -/
def stepCall (words : List (List Char)) : List Char := stepStart ++ arguments words

/-- `eval`, without builtins: the truth of an expression over `input_dict` and `_step_get` that is
no call of one of them with words, and of an expression over `results`; none where it raises. No
name `step` is there, and no value of JSON can be called. -/
structure Evaluator where
  /-- `\w` -/
  isWord : Char → Bool
  isWord_ascii : ∀ c, c.toNat < 128 → isWord c = (c.isAlphanum || c = '_')
  isWord_space : ∀ c, isWord c = true → isSpace c = false
  truth : Dict → (String → Option Dict) → List Char → Option Bool
  unbound : ∀ inputs outputs text, (∀ c ∈ text, isWord c = true ∨ c = '.' ∨ c = '-') →
    truth inputs outputs ("step.".toList ++ text) = none
  unbound_call : ∀ inputs outputs text word, (∀ c ∈ text, isWord c = true ∨ c = '-') →
    (∀ c ∈ word, isWord c = true) →
      truth inputs outputs ("step.".toList ++ (text ++ inputCall [word])) = none
  not_callable : ∀ inputs outputs first second word, (∀ c ∈ first, isWord c = true) →
    (∀ c ∈ second, isWord c = true) → (∀ c ∈ word, isWord c = true) →
      truth inputs outputs (stepCall [first, second] ++ '(' :: arguments [word]) = none
  resultsTruth : Dict → List Char → Option Bool

variable (py : Evaluator)

/-! ### Rewriting -/

/-- `\.(\w+)` so many times: the words, and what is left. -/
def readWords : ℕ → List Char → Option (List (List Char) × List Char)
  | 0, rest => some ([], rest)
  | count + 1, '.' :: rest =>
      match run py.isWord rest with
      | some (word, after) => (readWords count after).map fun (words, last) => (word :: words, last)
      | none => none
  | _ + 1, _ => none

/-- `start` and so many words behind it, with the text that replaces them. -/
def readPath (start : List Char) (count : ℕ) (replacement : List (List Char) → List Char)
    (text : List Char) : Option (List Char × ℕ) :=
  if start.isPrefixOf text then
    (readWords py count (text.drop start.length)).map fun (words, last) =>
      (replacement words, text.length - last.length)
  else none

def pythonExpr (expr : List Char) : List Char :=
  sub (readPath py "step".toList 2 stepCall)
    (sub (readPath py "step".toList 3 stepCall) (sub (readPath py "input".toList 1 inputCall) expr))

/-! ### Evaluation -/

def stepGet (stepOutputs : String → Option Dict) : List (List Char) → Json
  | [] => .null
  | key :: keys =>
      match stepOutputs (String.ofList key) with
      | some output => keys.foldl getMember (.obj output)
      | none => keys.foldl getMember .null

def behind (start text : List Char) : Option (List Char) :=
  if start.isPrefixOf text then some (text.drop start.length) else none

def readArguments : ℕ → List Char → Option (List (List Char))
  | fuel + 1, '\'' :: rest =>
      match run py.isWord rest with
      | some (word, ['\'', ')']) => some [word]
      | some (word, '\'' :: ',' :: ' ' :: after) => (readArguments fuel after).map (word :: ·)
      | _ => none
  | _, _ => none

/-- The truth of `eval(python_expr, ...)`; none where it raises. -/
def evalTruth (inputs : Dict) (outputs : String → Option Dict) (expr : List Char) : Option Bool :=
  match (behind stepStart expr).bind fun rest => readArguments py rest.length rest with
  | some words => some (stepGet outputs words).truthy
  | none =>
      match (behind inputStart expr).bind fun rest => readArguments py rest.length rest with
      | some [word] => some (getMember (.obj inputs) word).truthy
      | _ => py.truth inputs outputs expr

def getNestedValue (value : Json) (parts : List (List Char)) : Json :=
  (walkWith (fun value part => some (getMember value part)) value parts).getD .null

def evaluateCondition (condition : List Char) (results inputs : Dict)
    (outputs : String → Option Dict) : Bool :=
  if condition.isEmpty then true
  else
    let condition := trim condition
    let parts := condition.splitOn '.'
    if ['{', '{'].isPrefixOf condition && ['}', '}'].isSuffixOf condition then
      let expr := trim ((condition.take (condition.length - 2)).drop 2)
      (evalTruth py inputs outputs (pythonExpr py expr)).getD true
    else if "$previous.".toList.isPrefixOf condition && 3 ≤ parts.length then
      match Dict.get? results (String.ofList (parts.getD 1 [])) with
      | some (.obj result) =>
          match Dict.get? result "status" with
          | some (.str "completed") => (getNestedValue (.obj result) (parts.drop 2)).truthy
          | _ => false
      | some _ => true
      | none => false
    else if "$context.".toList.isPrefixOf condition then
      let fieldPath := sub (fun text => (behind "$context.".toList text).map fun _ =>
        ([], "$context.".toList.length)) condition
      (getNestedValue (.obj results) (fieldPath.splitOn '.')).truthy
    else (py.resultsTruth results condition).getD true

/-- `\w+` -/
def IsWord (text : List Char) : Prop := text ≠ [] ∧ ∀ c ∈ text, py.isWord c = true

variable {py} {start text word rest stepId field middle last : List Char} {count : ℕ}
  {replacement : List (List Char) → List Char} {inputs results : Dict}
  {outputs : String → Option Dict}

/-! ### Words -/

theorem Evaluator.dot_not_word (py : Evaluator) : py.isWord '.' = false := by
  rw [py.isWord_ascii '.' (by decide)]
  decide

theorem isWord_of_letters
    (h : word.all (fun c => decide (c.toNat < 128) && (c.isAlphanum || c = '_')) = true) :
    ∀ c ∈ word, py.isWord c = true := by
  intro c hc
  obtain ⟨hascii, hletter⟩ := Bool.and_eq_true_iff.mp (List.all_eq_true.mp h c hc)
  rw [py.isWord_ascii c (of_decide_eq_true hascii)]
  exact hletter

theorem dot_notMem_of_word (h : ∀ c ∈ word, py.isWord c = true) : '.' ∉ word := by
  intro hmem
  have hdot := h '.' hmem
  rw [py.dot_not_word] at hdot
  cases hdot

theorem run_word (h : IsWord py word) (hrest : ∀ c, rest.head? = some c → py.isWord c = false) :
    run py.isWord (word ++ rest) = some (word, rest) :=
  run_append h.1 h.2 hrest

theorem run_word_dot (h : IsWord py word) (rest : List Char) :
    run py.isWord (word ++ '.' :: rest) = some (word, '.' :: rest) := by
  refine run_word h fun c hc => ?_
  rw [← Option.some.inj hc]
  exact py.dot_not_word

theorem count_le_of_readWords {pair : List (List Char) × List Char}
    (h : readWords py count text = some pair) : count ≤ text.count '.' := by
  induction count generalizing text pair with
  | zero => exact Nat.zero_le _
  | succ count ih =>
      rw [readWords.eq_def] at h
      split at h
      · rename_i heq
        cases heq
      · rename_i rest heq
        obtain rfl := Nat.succ.inj heq
        split at h
        · rename_i word after hrun
          obtain ⟨other, hother, -⟩ := Option.map_eq_some_iff.mp h
          obtain ⟨rfl, -, -⟩ := eq_of_run hrun
          have hcount := ih hother
          rw [List.count_cons_self, List.count_append]
          omega
        · cases h
      · cases h

theorem eq_of_readPath {pair : List Char × ℕ}
    (h : readPath py start (count + 1) replacement text = some pair) :
    ∃ rest, text = start ++ '.' :: rest := by
  rw [readPath] at h
  split at h
  · rename_i hprefix
    obtain ⟨behind, rfl⟩ := List.isPrefixOf_iff_prefix.mp hprefix
    obtain ⟨words, hwords, -⟩ := Option.map_eq_some_iff.mp h
    rw [List.drop_left, readWords.eq_def] at hwords
    split at hwords
    · rename_i heq
      cases heq
    · exact ⟨_, rfl⟩
    · cases hwords
  · cases h

theorem count_le_of_readPath {pair : List Char × ℕ}
    (h : readPath py start count replacement text = some pair) : count ≤ text.count '.' := by
  rw [readPath] at h
  split at h
  · obtain ⟨words, hwords, -⟩ := Option.map_eq_some_iff.mp h
    exact (count_le_of_readWords hwords).trans ((List.drop_sublist _ _).count_le '.')
  · cases h

theorem clear_of_count (h : text.count '.' < count) :
    Clear (readPath py start count replacement) text [] := by
  intro c rest hsuffix
  rw [List.append_nil]
  cases hread : readPath py start count replacement (c :: rest) with
  | none => rfl
  | some pair =>
      have hcount := (count_le_of_readPath hread).trans (hsuffix.sublist.count_le '.')
      omega

/-! ### Paths of steps -/

/-- The text between two dots and the word at the end. -/
structure Dotted (stepId last : List Char) : Prop where
  middle : '.' ∉ stepId
  last : '.' ∉ last

theorem Dotted.count_eq (h : Dotted stepId last) :
    ("step".toList ++ '.' :: (stepId ++ '.' :: last)).count '.' = 2 := by
  have hstep : ("step".toList).count '.' = 0 := by decide
  rw [List.count_append, hstep, List.count_cons_self, List.count_append,
    List.count_eq_zero.mpr h.middle, List.count_cons_self, List.count_eq_zero.mpr h.last]

theorem Dotted.clear_three (h : Dotted stepId last) :
    Clear (readPath py start 3 replacement) ("step".toList ++ '.' :: (stepId ++ '.' :: last)) [] := by
  refine clear_of_count ?_
  rw [h.count_eq]
  decide

theorem Dotted.input_match (h : Dotted stepId last) {part : List Char} {pair : List Char × ℕ}
    (hsuffix : part <:+ "step".toList ++ '.' :: (stepId ++ '.' :: last))
    (hread : readPath py "input".toList 1 replacement part = some pair) :
    "input".toList <:+ stepId ∧ part = "input".toList ++ '.' :: last := by
  obtain ⟨behind, rfl⟩ := eq_of_readPath hread
  rcases TextParts.suffix_separator (by decide) (by decide) hsuffix with ⟨hstep, -⟩ | hlater
  · exact absurd hstep (by decide)
  · rcases TextParts.suffix_separator (by decide) h.middle hlater with ⟨hend, rfl⟩ | hlast
    · exact ⟨hend, rfl⟩
    · exact absurd (hlast.subset (List.mem_append_right _ List.mem_cons_self)) h.last

theorem Dotted.sub_input (h : Dotted stepId last) (hend : ¬ "input".toList <:+ stepId) :
    sub (readPath py "input".toList 1 inputCall) ("step".toList ++ '.' :: (stepId ++ '.' :: last)) =
      "step".toList ++ '.' :: (stepId ++ '.' :: last) := by
  refine sub_of_clear fun c rest hsuffix => ?_
  rw [List.append_nil]
  cases hread : readPath py "input".toList 1 inputCall (c :: rest) with
  | none => rfl
  | some pair => exact absurd (h.input_match hsuffix hread).1 hend

theorem readPath_input (h : IsWord py word) :
    readPath py "input".toList 1 inputCall ("input".toList ++ '.' :: word) =
      some (inputCall [word], ("input".toList ++ '.' :: word).length) := by
  have hrun : run py.isWord word = some (word, []) := by
    have hword := @run_word py word [] h nofun
    rw [List.append_nil] at hword
    exact hword
  rw [readPath, if_pos (List.isPrefixOf_iff_prefix.mpr (List.prefix_append _ _)), List.drop_left,
    readWords, hrun]
  rfl

theorem Dotted.sub_input_end {start : List Char} (h : Dotted (start ++ "input".toList) word)
    (hword : IsWord py word) :
    sub (readPath py "input".toList 1 inputCall)
        ("step".toList ++ '.' :: (start ++ "input".toList ++ '.' :: word)) =
      "step".toList ++ '.' :: (start ++ inputCall [word]) := by
  have hsplit : "step".toList ++ '.' :: (start ++ "input".toList ++ '.' :: word) =
      ("step".toList ++ '.' :: start) ++ (("input".toList ++ '.' :: word) ++ []) := by
    rw [List.append_nil, List.append_assoc, List.append_assoc, List.cons_append]
  have hne : "input".toList ++ '.' :: word ≠ [] := List.cons_ne_nil _ _
  have hread : readPath py "input".toList 1 inputCall ("input".toList ++ '.' :: word ++ []) =
      some (inputCall [word], ("input".toList ++ '.' :: word).length) := by
    rw [List.append_nil]
    exact readPath_input hword
  rw [hsplit]
  refine (sub_between hne (fun c rest hsuffix => ?_) hread ?_).trans ?_
  · cases hmatch : readPath py "input".toList 1 inputCall
        (c :: rest ++ ("input".toList ++ '.' :: word ++ [])) with
    | none => rfl
    | some pair =>
        obtain ⟨front, hfront⟩ := hsuffix
        have hpart : c :: rest ++ ("input".toList ++ '.' :: word ++ []) <:+
            "step".toList ++ '.' :: (start ++ "input".toList ++ '.' :: word) :=
          ⟨front, by rw [← List.append_assoc, hfront, ← hsplit]⟩
        have hsame := (h.input_match hpart hmatch).2
        have hlength := congrArg List.length hsame
        rw [List.append_nil, List.length_append, List.length_cons] at hlength
        omega
  · exact clear_of_count Nat.zero_lt_one
  · rw [List.append_nil, List.append_assoc, List.cons_append]

theorem Dotted.sub_three (h : Dotted stepId last) :
    sub (readPath py "step".toList 3 replacement)
        ("step".toList ++ '.' :: (stepId ++ '.' :: last)) =
      "step".toList ++ '.' :: (stepId ++ '.' :: last) :=
  sub_of_clear h.clear_three

theorem Dotted.sub_two {first second after : List Char} (h : Dotted first (second ++ after))
    (hfirst : IsWord py first) (hsecond : IsWord py second)
    (hafter : ∀ c, after.head? = some c → py.isWord c = false) :
    sub (readPath py "step".toList 2 stepCall)
        ("step".toList ++ '.' :: (first ++ '.' :: (second ++ after))) =
      stepCall [first, second] ++ after := by
  have hread : readPath py "step".toList 2 stepCall
      (("step".toList ++ '.' :: (first ++ '.' :: second)) ++ after) =
        some (stepCall [first, second],
          ("step".toList ++ '.' :: (first ++ '.' :: second)).length) := by
    rw [readPath, List.append_assoc, if_pos (List.isPrefixOf_iff_prefix.mpr (List.prefix_append _ _)),
      List.drop_left, List.cons_append, List.append_assoc, List.cons_append, readWords,
      run_word_dot hfirst]
    dsimp only
    rw [readWords, run_word hsecond hafter]
    show some (stepCall [first, second], _) = _
    have hlength : ("step".toList ++ '.' :: (first ++ '.' :: (second ++ after))).length -
        after.length = ("step".toList ++ '.' :: (first ++ '.' :: second)).length := by
      simp only [List.length_append, List.length_cons]
      omega
    rw [hlength]
  have hne : "step".toList ++ '.' :: (first ++ '.' :: second) ≠ [] := List.cons_ne_nil _ _
  have hcount : after.count '.' = 0 := by
    rw [List.count_eq_zero]
    exact fun hmem => h.last (List.mem_append_right _ hmem)
  have hsub := @sub_between [] after (readPath py "step".toList 2 stepCall) _ _ hne
    (fun c rest hsuffix => by cases List.suffix_nil.mp hsuffix) hread
    (clear_of_count (by rw [hcount]; decide))
  rw [List.nil_append, List.nil_append, List.append_assoc, List.cons_append, List.append_assoc,
    List.cons_append] at hsub
  exact hsub

theorem Dotted.sub_two_of_not_word (h : Dotted stepId last) (hword : ¬ IsWord py stepId) :
    sub (readPath py "step".toList 2 stepCall)
        ("step".toList ++ '.' :: (stepId ++ '.' :: last)) =
      "step".toList ++ '.' :: (stepId ++ '.' :: last) := by
  refine sub_of_clear fun c rest hsuffix => ?_
  rw [List.append_nil]
  cases hread : readPath py "step".toList 2 stepCall (c :: rest) with
  | none => rfl
  | some pair =>
      obtain ⟨behind, hbehind⟩ := eq_of_readPath hread
      rw [hbehind] at hsuffix hread
      rcases TextParts.suffix_separator (by decide) (by decide) hsuffix with ⟨-, rfl⟩ | hlater
      · -- The first word would be the id.
        rw [readPath, if_pos (List.isPrefixOf_iff_prefix.mpr (List.prefix_append _ _)),
          List.drop_left] at hread
        obtain ⟨words, hwords, -⟩ := Option.map_eq_some_iff.mp hread
        rw [readWords] at hwords
        split at hwords
        · rename_i word after hrun
          obtain ⟨hsame, hne, hall⟩ := eq_of_run hrun
          obtain ⟨other, hother, -⟩ := Option.map_eq_some_iff.mp hwords
          rw [readWords.eq_def] at hother
          split at hother
          · rename_i heq
            cases heq
          · obtain ⟨rfl, -⟩ := TextParts.append_separator_inj h.middle (dot_notMem_of_word hall) hsame
            exact absurd ⟨hne, hall⟩ hword
          · cases hother
        · cases hwords
      · have hcount := (count_le_of_readPath hread).trans (hlater.sublist.count_le '.')
        rw [List.count_append, List.count_eq_zero.mpr h.middle, List.count_cons_self,
          List.count_eq_zero.mpr h.last] at hcount
        omega

/-! ### Evaluation of rewritten paths -/

theorem quote_not_word (py : Evaluator) : py.isWord '\'' = false := by
  rw [py.isWord_ascii '\'' (by decide)]
  decide

theorem run_quoted (h : IsWord py word) (rest : List Char) :
    run py.isWord (word ++ '\'' :: rest) = some (word, '\'' :: rest) := by
  refine run_word h fun c hc => ?_
  rw [← Option.some.inj hc]
  exact quote_not_word py

theorem behind_append (start rest : List Char) : behind start (start ++ rest) = some rest := by
  rw [behind, if_pos (List.isPrefixOf_iff_prefix.mpr (List.prefix_append _ _)), List.drop_left]

theorem arguments_one (word : List Char) : arguments [word] = '\'' :: (word ++ ['\'', ')']) := by
  rw [arguments, quoted, List.cons_append, List.append_assoc]
  rfl

theorem arguments_two (first second : List Char) : arguments [first, second] =
    '\'' :: (first ++ '\'' :: ',' :: ' ' :: '\'' :: (second ++ ['\'', ')'])) := by
  rw [arguments, arguments_one, quoted, List.cons_append, List.append_assoc]
  · rfl
  · nofun

theorem readArguments_one {fuel : ℕ} (h : IsWord py word) :
    readArguments py (fuel + 1) (arguments [word]) = some [word] := by
  rw [arguments_one, readArguments, run_quoted h]
  rfl

theorem readArguments_two {first second rest : List Char} {fuel : ℕ} (hfirst : IsWord py first) :
    readArguments py (fuel + 1) (arguments [first, second] ++ rest) =
      (readArguments py fuel ('\'' :: (second ++ '\'' :: ')' :: rest))).map (first :: ·) := by
  rw [arguments_two, List.cons_append, List.append_assoc, readArguments]
  have hrun := run_quoted hfirst (',' :: ' ' :: '\'' :: (second ++ '\'' :: ')' :: rest))
  have htext : ('\'' :: ',' :: ' ' :: '\'' :: (second ++ ['\'', ')'])) ++ rest =
      '\'' :: ',' :: ' ' :: '\'' :: (second ++ '\'' :: ')' :: rest) := by
    simp
  rw [htext, hrun]
  rfl

theorem exists_length_arguments (first second rest : List Char) :
    ∃ fuel, (arguments [first, second] ++ rest).length = fuel + 2 := by
  refine Nat.exists_eq_add_of_le' ?_
  rw [arguments_two, List.length_append, List.length_cons, List.length_append, List.length_cons]
  omega

theorem evalTruth_stepCall {first second : List Char} (hfirst : IsWord py first)
    (hsecond : IsWord py second) :
    evalTruth py inputs outputs (stepCall [first, second]) =
      some (stepGet outputs [first, second]).truthy := by
  have hwords : ((behind stepStart (stepCall [first, second])).bind fun rest =>
      readArguments py rest.length rest) = some [first, second] := by
    obtain ⟨fuel, hfuel⟩ := exists_length_arguments first second []
    have hread := @readArguments_two py first second [] (fuel + 1) hfirst
    have hone := @readArguments_one py second fuel hsecond
    rw [arguments_one] at hone
    rw [hone, List.append_nil] at hread
    rw [List.append_nil] at hfuel
    rw [stepCall, behind_append, Option.bind_some, hfuel]
    exact hread
  rw [evalTruth, hwords]

theorem evalTruth_inputCall (h : IsWord py word) :
    evalTruth py inputs outputs (inputCall [word]) =
      some (getMember (.obj inputs) word).truthy := by
  have hstep : ((behind stepStart (inputCall [word])).bind fun rest =>
      readArguments py rest.length rest) = none := rfl
  have hwords : ((behind inputStart (inputCall [word])).bind fun rest =>
      readArguments py rest.length rest) = some [word] := by
    have hlength : (arguments [word]).length = (word ++ ['\'', ')']).length + 1 := by
      rw [arguments_one, List.length_cons]
    rw [inputCall, behind_append, Option.bind_some, hlength]
    exact readArguments_one h
  rw [evalTruth, hstep, hwords]

theorem evalTruth_called {first second : List Char} (hfirst : IsWord py first)
    (hsecond : IsWord py second) (hword : IsWord py word) :
    evalTruth py inputs outputs (stepCall [first, second] ++ '(' :: arguments [word]) = none := by
  have hwords : ((behind stepStart (stepCall [first, second] ++ '(' :: arguments [word])).bind
      fun rest => readArguments py rest.length rest) = none := by
    obtain ⟨fuel, hfuel⟩ := exists_length_arguments first second ('(' :: arguments [word])
    have hread := @readArguments_two py first second ('(' :: arguments [word]) (fuel + 1) hfirst
    have hnone : readArguments py (fuel + 1)
        ('\'' :: (second ++ '\'' :: ')' :: '(' :: arguments [word])) = none := by
      rw [readArguments, run_quoted hsecond]
      rfl
    rw [hnone] at hread
    rw [stepCall, List.append_assoc, behind_append, Option.bind_some, hfuel]
    exact hread
  have hinput : ((behind inputStart (stepCall [first, second] ++ '(' :: arguments [word])).bind
      fun rest => readArguments py rest.length rest) = none := rfl
  rw [evalTruth, hwords, hinput]
  exact py.not_callable inputs outputs first second word hfirst.2 hsecond.2 hword.2

theorem evalTruth_step (text : List Char) :
    evalTruth py inputs outputs ("step.".toList ++ text) =
      py.truth inputs outputs ("step.".toList ++ text) := by
  have hstep : ((behind stepStart ("step.".toList ++ text)).bind fun rest =>
      readArguments py rest.length rest) = none := rfl
  have hinput : ((behind inputStart ("step.".toList ++ text)).bind fun rest =>
      readArguments py rest.length rest) = none := rfl
  rw [evalTruth, hstep, hinput]

/-! ### Conditions -/

theorem evaluateCondition_template {last : Char} (hfirst : ∀ c, text.head? = some c → isSpace c = false)
    (hlast : text.getLast? = some last) (hspace : isSpace last = false) :
    evaluateCondition py (wholeMatch text) results inputs outputs =
      (evalTruth py inputs outputs (pythonExpr py text)).getD true := by
  obtain ⟨c, rest, rfl⟩ : ∃ c rest, text = c :: rest := by
    cases text with
    | nil => cases hlast
    | cons c rest => exact ⟨c, rest, rfl⟩
  have hinner : trim (c :: rest) = c :: rest := trim_of_ends (hfirst c rfl) hspace hlast
  have hbraces : (['{', '{'].isPrefixOf (wholeMatch (c :: rest)) &&
      ['}', '}'].isSuffixOf (wholeMatch (c :: rest))) = true := by
    rw [Bool.and_eq_true]
    refine ⟨rfl, List.isSuffixOf_iff_suffix.mpr ⟨'{' :: '{' :: c :: rest, ?_⟩⟩
    rfl
  have hexpr : ((wholeMatch (c :: rest)).take ((wholeMatch (c :: rest)).length - 2)).drop 2 =
      c :: rest := by
    have hsplit : wholeMatch (c :: rest) = ('{' :: '{' :: (c :: rest)) ++ ['}', '}'] := rfl
    rw [hsplit, List.length_append]
    show (List.take (('{' :: '{' :: (c :: rest)).length + 2 - 2) _).drop 2 = _
    rw [Nat.add_sub_cancel, List.take_left]
    rfl
  rw [evaluateCondition, if_neg (show ¬ (wholeMatch (c :: rest)).isEmpty = true from nofun)]
  dsimp only
  rw [trim_wholeMatch, if_pos hbraces, hexpr, hinner]

/-! ### Rewritten paths -/

def stepPath (stepId field : List Char) : List Char := "step".toList ++ '.' :: (stepId ++ '.' :: field)

theorem IsWord.dotted (hstep : '.' ∉ stepId) (hfield : IsWord py field) : Dotted stepId field :=
  ⟨hstep, dot_notMem_of_word hfield.2⟩

theorem pythonExpr_stepPath (hstep : IsWord py stepId) (hend : ¬ "input".toList <:+ stepId)
    (hfield : IsWord py field) :
    pythonExpr py (stepPath stepId field) = stepCall [stepId, field] := by
  have hdotted : Dotted stepId field := hfield.dotted (dot_notMem_of_word hstep.2)
  have hnil : Dotted stepId (field ++ []) := by
    rw [List.append_nil]
    exact hdotted
  have htwo := hnil.sub_two hstep hfield nofun
  rw [List.append_nil, List.append_nil] at htwo
  rw [pythonExpr, stepPath, hdotted.sub_input hend, hdotted.sub_three, htwo]

theorem inputCall_eq (word : List Char) :
    inputCall [word] = "input_dict".toList ++ '.' :: ("get".toList ++ '(' :: arguments [word]) := rfl

theorem dot_notMem_call (hfield : IsWord py field) :
    '.' ∉ "get".toList ++ '(' :: arguments [field] := by
  rw [arguments_one]
  intro hmem
  have hdot := dot_notMem_of_word hfield.2
  simp [hdot] at hmem

theorem pythonExpr_inputEnd {start : List Char} (hstart : '.' ∉ start) (hfield : IsWord py field) :
    pythonExpr py (stepPath (start ++ "input".toList) field) =
      sub (readPath py "step".toList 2 stepCall) ("step".toList ++
        '.' :: (start ++ "input_dict".toList ++ '.' :: ("get".toList ++ '(' :: arguments [field]))) := by
  have hend : '.' ∉ start ++ "input".toList := by
    rw [List.mem_append, not_or]
    exact ⟨hstart, by decide⟩
  have hdict : '.' ∉ start ++ "input_dict".toList := by
    rw [List.mem_append, not_or]
    exact ⟨hstart, by decide⟩
  have hdotted : Dotted (start ++ "input_dict".toList) ("get".toList ++ '(' :: arguments [field]) :=
    ⟨hdict, dot_notMem_call hfield⟩
  rw [pythonExpr, stepPath, (hfield.dotted hend).sub_input_end hfield, inputCall_eq,
    ← List.append_assoc, hdotted.sub_three]

theorem pythonExpr_word_inputEnd {start : List Char} (hstep : IsWord py (start ++ "input".toList))
    (hfield : IsWord py field) :
    pythonExpr py (stepPath (start ++ "input".toList) field) =
      stepCall [start ++ "input_dict".toList, "get".toList] ++ '(' :: arguments [field] := by
  have hstart : ∀ c ∈ start, py.isWord c = true := fun c hc => hstep.2 c (List.mem_append_left _ hc)
  have hfirst : IsWord py (start ++ "input_dict".toList) := by
    refine ⟨List.append_ne_nil_of_right_ne_nil _ (by decide), fun c hc => ?_⟩
    rcases List.mem_append.mp hc with hc | hc
    · exact hstart c hc
    · exact isWord_of_letters (by decide +kernel) c hc
  have hsecond : IsWord py "get".toList := ⟨by decide, isWord_of_letters (by decide +kernel)⟩
  have hdot := dot_notMem_of_word hstart
  have hdict : '.' ∉ start ++ "input_dict".toList := dot_notMem_of_word hfirst.2
  have hafter : ∀ c, ('(' :: arguments [field]).head? = some c → py.isWord c = false := by
    intro c hc
    rw [← Option.some.inj hc, py.isWord_ascii '(' (by decide)]
    decide
  have hdotted : Dotted (start ++ "input_dict".toList) ("get".toList ++ '(' :: arguments [field]) :=
    ⟨hdict, dot_notMem_call hfield⟩
  rw [pythonExpr_inputEnd hdot hfield, hdotted.sub_two hfirst hsecond hafter]

theorem pythonExpr_not_word (hdot : '.' ∉ stepId) (hstep : ¬ IsWord py stepId)
    (hend : ¬ "input".toList <:+ stepId) (hfield : IsWord py field) :
    pythonExpr py (stepPath stepId field) = stepPath stepId field := by
  have hdotted : Dotted stepId field := hfield.dotted hdot
  rw [pythonExpr, stepPath, hdotted.sub_input hend, hdotted.sub_three,
    hdotted.sub_two_of_not_word hstep]

theorem pythonExpr_not_word_inputEnd {start : List Char} (hdot : '.' ∉ start)
    (hstart : ¬ ∀ c ∈ start, py.isWord c = true) (hfield : IsWord py field) :
    pythonExpr py (stepPath (start ++ "input".toList) field) =
      "step.".toList ++ (start ++ inputCall [field]) := by
  have hdict : '.' ∉ start ++ "input_dict".toList := by
    rw [List.mem_append, not_or]
    exact ⟨hdot, by decide⟩
  have hdotted : Dotted (start ++ "input_dict".toList) ("get".toList ++ '(' :: arguments [field]) :=
    ⟨hdict, dot_notMem_call hfield⟩
  have hword : ¬ IsWord py (start ++ "input_dict".toList) :=
    fun h => hstart fun c hc => h.2 c (List.mem_append_left _ hc)
  rw [pythonExpr_inputEnd hdot hfield, hdotted.sub_two_of_not_word hword, List.append_assoc,
    ← inputCall_eq]
  rfl

theorem pythonExpr_input (hfield : IsWord py field) :
    pythonExpr py ("input".toList ++ '.' :: field) = inputCall [field] := by
  have hne : "input".toList ++ '.' :: field ≠ [] := List.cons_ne_nil _ _
  have hread : readPath py "input".toList 1 inputCall ("input".toList ++ '.' :: field ++ []) =
      some (inputCall [field], ("input".toList ++ '.' :: field).length) := by
    rw [List.append_nil]
    exact readPath_input hfield
  have hsub := @sub_between [] [] (readPath py "input".toList 1 inputCall) _ _ hne
    (fun c rest hsuffix => by cases List.suffix_nil.mp hsuffix) hread
    (clear_of_count Nat.zero_lt_one)
  rw [List.nil_append, List.nil_append, List.append_nil, List.append_nil] at hsub
  have hcount : (inputCall [field]).count '.' = 1 := by
    rw [inputCall_eq, List.count_append, List.count_cons_self,
      List.count_eq_zero.mpr (dot_notMem_call hfield)]
    rfl
  have hclear : ∀ count, 2 ≤ count →
      Clear (readPath py "step".toList count stepCall) (inputCall [field]) [] :=
    fun count hle => clear_of_count (by omega)
  rw [pythonExpr, hsub, sub_of_clear (hclear 3 (by decide)), sub_of_clear (hclear 2 (by decide))]

end MindscapeLocalCore.Workflow.StepConditions
