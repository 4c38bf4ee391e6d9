import MindscapeLocalCore.KnowledgeProjection.StagedRows

/-!
The compiler of facet filters: which column of the facets a value is compared with, and what the
compiled condition says of the facets of a record.
-/

namespace MindscapeLocalCore.KnowledgeRetrieval.FacetFilters

open Library.Json KnowledgeProjection.RetrievableWrites KnowledgeProjection.StagedRows

/-- What the compiler and the database take from their libraries: `float(value)` where it does not
overflow, and the order of texts in the collation of the database. A numeric column takes a number
as it is. -/
structure Platform where
  runtime : Runtime
  float : Number → Option Number
  textLess : String → String → Bool
  numeric_number : ∀ value, runtime.numeric (.number value) = some value

/-- A value of a predicate; of one that is no text, number or boolean only `str(value)` is used. -/
inductive FilterValue where
  | scalar (value : FacetValue)
  | other (printed : String)

inductive Comparison where
  | eq
  | gt
  | gte
  | lt
  | lte

inductive Test where
  | compare (operator : Comparison) (value : FilterValue)
  | isIn (values : List FilterValue)

structure FacetFilter where
  key : String
  test : Test

inductive CompileError where
  /-- `knowledge_query_facet_in_type_mismatch` -/
  | inTypeMismatch
  | overflow
  deriving DecidableEq

inductive Column where
  | boolValue
  | numberValue
  /-- `COALESCE(text_value, ref_value)` -/
  | textOrRef
  deriving DecidableEq

inductive Parameter where
  | bool (value : Bool)
  | number (value : Number)
  | text (value : String)

inductive ClauseTest where
  | compare (operator : Comparison) (parameter : Parameter)
  /-- `= ANY(...)` -/
  | any (parameters : List Parameter)

/-- One `EXISTS` over the facets of the record. -/
structure Clause where
  facetKey : String
  column : Column
  test : ClauseTest

variable (p : Platform)

/-! ### Compilation -/

/-- `str(value)` -/
def FilterValue.print : FilterValue → String
  | .scalar value => p.runtime.str value
  | .other printed => printed

def typedValue : FilterValue → Except CompileError (Column × Parameter)
  | .scalar (.boolean value) => .ok (.boolValue, .bool value)
  | .scalar (.number value) =>
      match p.float value with
      | some number => .ok (.numberValue, .number number)
      | none => .error .overflow
  | value => .ok (.textOrRef, .text (value.print p))

def compilePredicate (predicate : FacetFilter) : Except CompileError Clause :=
  match predicate.test with
  | .compare operator value => do
      let (column, parameter) ← typedValue p value
      return ⟨predicate.key, column, .compare operator parameter⟩
  | .isIn values => do
      let typed ← values.mapM (typedValue p)
      match typed with
      | [] => .error .inTypeMismatch
      | (column, parameter) :: rest =>
          if ∀ other ∈ rest, other.1 = column then
            return ⟨predicate.key, column, .any (parameter :: rest.map Prod.snd)⟩
          else .error .inTypeMismatch

def compileFacetFilters (predicates : List FacetFilter) : Except CompileError (List Clause) :=
  predicates.mapM (compilePredicate p)

/-! ### The compiled condition -/

def Column.valueOf : Column → FacetColumn → Option Parameter
  | .boolValue, .bool value => some (.bool value)
  | .numberValue, .number value => some (.number value)
  | .textOrRef, .text value => some (.text value)
  | .textOrRef, .ref value => some (.text value)
  | _, _ => none

def Comparison.holds {α : Type} (operator : Comparison) (less same : α → α → Bool) (a b : α) :
    Bool :=
  match operator with
  | .eq => same a b
  | .gt => less b a
  | .gte => less b a || same a b
  | .lt => less a b
  | .lte => less a b || same a b

def numberLess (a b : Number) : Bool := a.valueLe b && !a.valueEq b

def compareParameters (operator : Comparison) : Parameter → Parameter → Bool
  | .bool a, .bool b => operator.holds (fun a b => !a && b) (· == ·) a b
  | .number a, .number b => operator.holds numberLess Number.valueEq a b
  | .text a, .text b => operator.holds p.textLess (· == ·) a b
  | _, _ => false

def ClauseTest.holds (value : Parameter) : ClauseTest → Bool
  | .compare operator parameter => compareParameters p operator value parameter
  | .any parameters => parameters.any (compareParameters p .eq value)

def Clause.selects (clause : Clause) (row : FacetRow) : Bool :=
  row.facetKey == clause.facetKey &&
    (clause.column.valueOf row.value).any fun value => clause.test.holds p value

def conditionHolds (clauses : List Clause) (rows : List FacetRow) : Bool :=
  clauses.all fun clause => rows.any (clause.selects p)

end MindscapeLocalCore.KnowledgeRetrieval.FacetFilters

/-!
Whether a facet that is stored can be queried: the relation that a predicate states, in the type
of the facet, against the condition that is compiled.
-/

namespace MindscapeLocalCore.KnowledgeRetrieval.FacetQueries

open Library.CheckedInserts Library.Guarded Library.Json KnowledgeProjection.RetrievableWrites
open KnowledgeProjection.StagedRows FacetFilters

variable (p : Platform)

/-! ### Relations -/

def asType (valueType : String) : FilterValue → Option FacetColumn
  | .scalar value => (facetColumn p.runtime ⟨"", valueType, value, 0⟩).toOption
  | .other printed =>
      if valueType = "string" ∨ valueType = "enum" then some (.text printed)
      else if valueType = "ref" then some (.ref printed)
      else none

/-- A comparison of two stored values of one type: numbers and moments by their order, texts as
texts. -/
def compareColumns (operator : Comparison) : FacetColumn → FacetColumn → Bool
  | .text a, .text b => operator.holds p.textLess (· == ·) a b
  | .ref a, .ref b => operator.holds p.textLess (· == ·) a b
  | .number a, .number b => operator.holds numberLess Number.valueEq a b
  | .bool a, .bool b => operator.holds (fun a b => !a && b) (· == ·) a b
  | .timestamp a, .timestamp b => operator.holds (fun a b => a < b) (· == ·) a b
  | _, _ => false

def InRelation (facet : ProjectionFacetWrite) (operator : Comparison) (value : FilterValue) : Prop :=
  ∃ stored other, facetColumn p.runtime facet = .ok stored ∧
    asType p facet.valueType value = some other ∧ compareColumns p operator stored other = true

def Meets (facet : ProjectionFacetWrite) : Test → Prop
  | .compare operator value => InRelation p facet operator value
  | .isIn values => ∃ value ∈ values, InRelation p facet .eq value

def AllMet (facets : List ProjectionFacetWrite) (predicates : List FacetFilter) : Prop :=
  ∀ predicate ∈ predicates, ∃ facet ∈ facets, facet.key = predicate.key ∧
    Meets p facet predicate.test

/-- A facet that is stored is found by the predicates that it meets, and by no others. -/
def Queryable (recordId : String) (facets : List ProjectionFacetWrite)
    (predicates : List FacetFilter) : Prop :=
  ∀ rows clauses, facets.mapM (facetRow p.runtime recordId) = .ok rows →
    compileFacetFilters p predicates = .ok clauses →
      (conditionHolds p clauses rows = true ↔ AllMet p facets predicates)

def Selects (value : FilterValue) (valueType : String) : Prop :=
  match value with
  | .scalar (.boolean _) => valueType = "boolean"
  | .scalar (.number _) => valueType = "number"
  | _ => valueType = "string" ∨ valueType = "enum" ∨ valueType = "ref"

def rounded : FilterValue → FilterValue
  | .scalar (.number value) => .scalar (.number ((p.float value).getD value))
  | value => value

/-- The facet has a declared type that the value selects, and is in the relation to the value as a
float. -/
def SelectedBy (facet : ProjectionFacetWrite) (operator : Comparison) (value : FilterValue) : Prop :=
  Selects value facet.valueType ∧ InRelation p facet operator (rounded p value)

def MeetsSelected (facet : ProjectionFacetWrite) : Test → Prop
  | .compare operator value => SelectedBy p facet operator value
  | .isIn values => ∃ value ∈ values, SelectedBy p facet .eq value

def AllSelected (facets : List ProjectionFacetWrite) (predicates : List FacetFilter) : Prop :=
  ∀ predicate ∈ predicates, ∃ facet ∈ facets, facet.key = predicate.key ∧
    MeetsSelected p facet predicate.test

structure SelectsWhatIsMet (facets : List ProjectionFacetWrite) (predicates : List FacetFilter) :
    Prop where
  selected : AllMet p facets predicates → AllSelected p facets predicates
  met : AllSelected p facets predicates → AllMet p facets predicates

variable {p} {facet : ProjectionFacetWrite} {stored : FacetColumn} {value : FilterValue}
  {operator : Comparison} {column : Column} {parameter : Parameter}

/-! ### One value -/

theorem facetColumn_cases (h : facetColumn p.runtime facet = .ok stored) :
    ((facet.valueType = "string" ∨ facet.valueType = "enum") ∧
        stored = .text (p.runtime.str facet.value)) ∨
      (facet.valueType = "number" ∧ ∃ number, stored = .number number) ∨
      (facet.valueType = "boolean" ∧ stored = .bool (FacetValue.truth facet.value)) ∨
      (facet.valueType = "timestamp" ∧ ∃ moment, stored = .timestamp moment) ∨
      (facet.valueType = "ref" ∧ stored = .ref (p.runtime.str facet.value)) := by
  rw [facetColumn] at h
  split at h
  · rename_i htype
    exact .inl ⟨htype, (Except.ok.inj h).symm⟩
  · split at h
    · rename_i htype
      split at h
      · exact .inr (.inl ⟨htype, _, (Except.ok.inj h).symm⟩)
      · cases h
    · split at h
      · rename_i htype
        exact .inr (.inr (.inl ⟨htype, (Except.ok.inj h).symm⟩))
      · split at h
        · rename_i htype
          split at h
          · exact .inr (.inr (.inr (.inl ⟨htype, _, (Except.ok.inj h).symm⟩)))
          · cases h
        · split at h
          · rename_i htype
            exact .inr (.inr (.inr (.inr ⟨htype, (Except.ok.inj h).symm⟩)))
          · cases h

theorem inRelation_iff {other : FacetColumn} (hstored : facetColumn p.runtime facet = .ok stored)
    (hother : asType p facet.valueType value = some other) :
    InRelation p facet operator value ↔ compareColumns p operator stored other = true := by
  constructor
  · rintro ⟨stored', other', hstored', hother', hholds⟩
    obtain rfl := Except.ok.inj (hstored.symm.trans hstored')
    obtain rfl := Option.some.inj (hother.symm.trans hother')
    exact hholds
  · exact fun hholds => ⟨stored, other, hstored, hother, hholds⟩

theorem asType_text (h : facet.valueType = "string" ∨ facet.valueType = "enum") :
    asType p facet.valueType value = some (.text (value.print p)) := by
  cases value with
  | scalar value =>
      show (facetColumn p.runtime ⟨"", facet.valueType, value, 0⟩).toOption = _
      rw [facetColumn, if_pos h]
      rfl
  | other printed => exact if_pos h

theorem asType_ref (h : facet.valueType = "ref") :
    asType p facet.valueType value = some (.ref (value.print p)) := by
  rw [h]
  cases value with
  | scalar value => rfl
  | other printed => rfl

theorem asType_number (h : facet.valueType = "number") (number : Number) :
    asType p facet.valueType (.scalar (.number number)) = some (.number number) := by
  rw [h]
  have hnumber : facetColumn p.runtime ⟨"", "number", .number number, 0⟩ =
      .ok (.number number) := by
    show (match p.runtime.numeric (.number number) with
      | some number => Except.ok (FacetColumn.number number)
      | none => .error Failure.check) = _
    rw [p.numeric_number]
  rw [asType, hnumber]
  rfl

theorem asType_boolean (h : facet.valueType = "boolean") (flag : Bool) :
    asType p facet.valueType (.scalar (.boolean flag)) = some (.bool flag) := by
  rw [h]
  rfl

theorem selectedBy_text_iff (hstored : facetColumn p.runtime facet = .ok stored)
    (hselects : ∀ valueType, Selects value valueType ↔
      valueType = "string" ∨ valueType = "enum" ∨ valueType = "ref")
    (hrounded : rounded p value = value) :
    SelectedBy p facet operator value ↔
      (Column.textOrRef.valueOf stored).any (fun found =>
        compareParameters p operator found (.text (value.print p))) = true := by
  rw [SelectedBy, hselects, hrounded]
  rcases facetColumn_cases hstored with ⟨htype, rfl⟩ | ⟨htype, _, rfl⟩ | ⟨htype, rfl⟩ |
    ⟨htype, _, rfl⟩ | ⟨htype, rfl⟩
  · rw [inRelation_iff hstored (asType_text htype)]
    refine and_iff_right ?_
    rcases htype with htype | htype
    · exact .inl htype
    · exact .inr (.inl htype)
  · exact iff_of_false (fun h => by rw [htype] at h; exact absurd h.1 (by decide))
      Bool.false_ne_true
  · exact iff_of_false (fun h => by rw [htype] at h; exact absurd h.1 (by decide))
      Bool.false_ne_true
  · exact iff_of_false (fun h => by rw [htype] at h; exact absurd h.1 (by decide))
      Bool.false_ne_true
  · rw [inRelation_iff hstored (asType_ref htype)]
    exact and_iff_right (.inr (.inr htype))

theorem selectedBy_number_iff {number floated : Number}
    (hstored : facetColumn p.runtime facet = .ok stored) (hfloat : p.float number = some floated) :
    SelectedBy p facet operator (.scalar (.number number)) ↔
      (Column.numberValue.valueOf stored).any (fun found =>
        compareParameters p operator found (.number floated)) = true := by
  have hrounded : rounded p (.scalar (.number number)) = .scalar (.number floated) := by
    rw [rounded, hfloat]
    rfl
  rw [SelectedBy, hrounded]
  show facet.valueType = "number" ∧ _ ↔ _
  rcases facetColumn_cases hstored with ⟨htype, rfl⟩ | ⟨htype, _, rfl⟩ | ⟨htype, rfl⟩ |
    ⟨htype, _, rfl⟩ | ⟨htype, rfl⟩
  · refine iff_of_false (fun h => ?_) Bool.false_ne_true
    rcases htype with htype | htype <;> rw [htype] at h <;> exact absurd h.1 (by decide)
  · rw [inRelation_iff hstored (asType_number htype floated)]
    exact and_iff_right htype
  · exact iff_of_false (fun h => by rw [htype] at h; exact absurd h.1 (by decide))
      Bool.false_ne_true
  · exact iff_of_false (fun h => by rw [htype] at h; exact absurd h.1 (by decide))
      Bool.false_ne_true
  · exact iff_of_false (fun h => by rw [htype] at h; exact absurd h.1 (by decide))
      Bool.false_ne_true

theorem selectedBy_boolean_iff {flag : Bool} (hstored : facetColumn p.runtime facet = .ok stored) :
    SelectedBy p facet operator (.scalar (.boolean flag)) ↔
      (Column.boolValue.valueOf stored).any (fun found =>
        compareParameters p operator found (.bool flag)) = true := by
  show facet.valueType = "boolean" ∧ InRelation p facet operator (.scalar (.boolean flag)) ↔ _
  rcases facetColumn_cases hstored with ⟨htype, rfl⟩ | ⟨htype, _, rfl⟩ | ⟨htype, rfl⟩ |
    ⟨htype, _, rfl⟩ | ⟨htype, rfl⟩
  · refine iff_of_false (fun h => ?_) Bool.false_ne_true
    rcases htype with htype | htype <;> rw [htype] at h <;> exact absurd h.1 (by decide)
  · exact iff_of_false (fun h => by rw [htype] at h; exact absurd h.1 (by decide))
      Bool.false_ne_true
  · rw [inRelation_iff hstored (asType_boolean htype flag)]
    exact and_iff_right htype
  · exact iff_of_false (fun h => by rw [htype] at h; exact absurd h.1 (by decide))
      Bool.false_ne_true
  · exact iff_of_false (fun h => by rw [htype] at h; exact absurd h.1 (by decide))
      Bool.false_ne_true

theorem selectedBy_iff (hstored : facetColumn p.runtime facet = .ok stored)
    (htyped : typedValue p value = .ok (column, parameter)) :
    SelectedBy p facet operator value ↔
      (column.valueOf stored).any (fun found => compareParameters p operator found parameter) =
        true := by
  cases value with
  | other printed =>
      obtain ⟨rfl, rfl⟩ := Prod.mk.inj (Except.ok.inj htyped)
      exact selectedBy_text_iff hstored (fun _ => Iff.rfl) rfl
  | scalar value =>
      cases value with
      | text value =>
          obtain ⟨rfl, rfl⟩ := Prod.mk.inj (Except.ok.inj htyped)
          exact selectedBy_text_iff hstored (fun _ => Iff.rfl) rfl
      | boolean value =>
          obtain ⟨rfl, rfl⟩ := Prod.mk.inj (Except.ok.inj htyped)
          exact selectedBy_boolean_iff hstored
      | number value =>
          rw [typedValue] at htyped
          split at htyped
          · rename_i hfloat
            obtain ⟨rfl, rfl⟩ := Prod.mk.inj (Except.ok.inj htyped)
            exact selectedBy_number_iff hstored hfloat
          · cases htyped

/-! ### Clauses -/

theorem facetRow_eq_ok {recordId : String} {row : FacetRow}
    (h : facetRow p.runtime recordId facet = .ok row) :
    row.facetKey = facet.key ∧ facetColumn p.runtime facet = .ok row.value := by
  rw [facetRow, bind_eq_ok] at h
  obtain ⟨stored, hstored, h⟩ := h
  rw [bind_eq_ok] at h
  obtain ⟨id, -, h⟩ := h
  obtain rfl := Except.ok.inj h
  exact ⟨rfl, hstored⟩

theorem any_any_iff {found : Option Parameter} {parameters : List Parameter}
    {test : Parameter → Parameter → Bool} :
    (found.any fun value => parameters.any (test value)) = true ↔
      ∃ parameter ∈ parameters, (found.any fun value => test value parameter) = true := by
  cases found with
  | none => exact iff_of_false Bool.false_ne_true fun ⟨_, _, h⟩ => Bool.false_ne_true h
  | some value => exact List.any_eq_true

theorem forall₂_typed {values : List FilterValue} {typed : List (Column × Parameter)}
    (h : List.Forall₂ (fun value pair => typedValue p value = .ok pair) values typed)
    (hcolumn : ∀ pair ∈ typed, pair.1 = column)
    (hstored : facetColumn p.runtime facet = .ok stored) :
    (∃ value ∈ values, SelectedBy p facet .eq value) ↔
      ∃ parameter ∈ typed.map Prod.snd,
        ((column.valueOf stored).any fun found => compareParameters p .eq found parameter) =
          true := by
  induction h with
  | nil =>
      exact iff_of_false (fun ⟨_, h, _⟩ => absurd h List.not_mem_nil)
        fun ⟨_, h, _⟩ => absurd h List.not_mem_nil
  | @cons value pair values typed hpair _ ih =>
      obtain rfl : pair.1 = column := hcolumn pair List.mem_cons_self
      rw [List.exists_mem_cons_iff, List.map_cons, List.exists_mem_cons_iff,
        ih fun pair hpair => hcolumn pair (List.mem_cons_of_mem _ hpair),
        @selectedBy_iff p facet stored value _ pair.1 pair.2 hstored hpair]

theorem clause_selects_iff {predicate : FacetFilter} {clause : Clause} {recordId : String}
    {row : FacetRow} (hrow : facetRow p.runtime recordId facet = .ok row)
    (hclause : compilePredicate p predicate = .ok clause) :
    clause.selects p row = true ↔
      facet.key = predicate.key ∧ MeetsSelected p facet predicate.test := by
  obtain ⟨hkey, hstored⟩ := facetRow_eq_ok hrow
  rw [compilePredicate] at hclause
  cases htest : predicate.test with
  | compare operator value =>
      rw [htest] at hclause
      dsimp only at hclause
      rw [bind_eq_ok] at hclause
      obtain ⟨⟨column, parameter⟩, htyped, hclause⟩ := hclause
      obtain rfl := Except.ok.inj hclause
      rw [Clause.selects, Bool.and_eq_true, beq_iff_eq, hkey]
      exact and_congr_right fun _ => (selectedBy_iff hstored htyped).symm
  | isIn values =>
      rw [htest] at hclause
      dsimp only at hclause
      rw [bind_eq_ok] at hclause
      obtain ⟨typed, htyped, hclause⟩ := hclause
      rw [mapM_eq_ok] at htyped
      cases typed with
      | nil => cases hclause
      | cons pair rest =>
          dsimp only at hclause
          split at hclause
          · rename_i hcolumns
            obtain rfl := Except.ok.inj hclause
            rw [Clause.selects, Bool.and_eq_true, beq_iff_eq, hkey]
            refine and_congr_right fun _ => ?_
            have hsame : ∀ other ∈ pair :: rest, other.1 = pair.1 := by
              intro other hmem
              rcases List.mem_cons.mp hmem with rfl | hmem
              · rfl
              · exact hcolumns other hmem
            refine Iff.trans ?_ (forall₂_typed htyped hsame hstored).symm
            exact any_any_iff
          · cases hclause

theorem conditionHolds_iff {facets : List ProjectionFacetWrite} {predicates : List FacetFilter}
    {recordId : String} {rows : List FacetRow} {clauses : List Clause}
    (hrows : facets.mapM (facetRow p.runtime recordId) = .ok rows)
    (hclauses : compileFacetFilters p predicates = .ok clauses) :
    conditionHolds p clauses rows = true ↔ AllSelected p facets predicates := by
  rw [compileFacetFilters, mapM_eq_ok] at hclauses
  rw [mapM_eq_ok] at hrows
  have hsome : ∀ predicate clause, compilePredicate p predicate = .ok clause →
      (rows.any (clause.selects p) = true ↔ ∃ facet ∈ facets, facet.key = predicate.key ∧
        MeetsSelected p facet predicate.test) := by
    intro predicate clause hclause
    induction hrows with
    | nil => exact iff_of_false Bool.false_ne_true fun ⟨_, h, _⟩ => absurd h List.not_mem_nil
    | cons hrow _ ih =>
        rw [List.any_cons, Bool.or_eq_true, ih, clause_selects_iff hrow hclause,
          List.exists_mem_cons_iff]
  rw [conditionHolds, AllSelected, List.all_eq_true]
  induction hclauses with
  | nil =>
      exact iff_of_true (fun _ h => absurd h List.not_mem_nil)
        fun _ h => absurd h List.not_mem_nil
  | cons hclause _ ih =>
      rw [List.forall_mem_cons, List.forall_mem_cons]
      exact and_congr (hsome _ _ hclause) ih

/-! ### Queries -/

theorem compareColumns_self (stored : FacetColumn) : compareColumns p .eq stored stored = true := by
  cases stored with
  | text value => exact beq_self_eq_true value
  | ref value => exact beq_self_eq_true value
  | number value => exact Number.valueEq_refl value
  | bool value => exact beq_self_eq_true value
  | timestamp value => exact beq_self_eq_true value

theorem inRelation_self (hstored : facetColumn p.runtime facet = .ok stored) :
    InRelation p facet .eq (.scalar facet.value) := by
  refine ⟨stored, stored, hstored, ?_, compareColumns_self stored⟩
  have hsame : facetColumn p.runtime ⟨"", facet.valueType, facet.value, 0⟩ =
      facetColumn p.runtime facet := rfl
  rw [asType, hsame, hstored]
  rfl

/-- Facets that are stored are found as their predicates say where those that are met are met by
facets of the types that the values select. -/
theorem queryable_iff (p : Platform) (recordId : String) (facets : List ProjectionFacetWrite)
    (predicates : List FacetFilter) :
    Queryable p recordId facets predicates ↔
      ((∃ rows, facets.mapM (facetRow p.runtime recordId) = .ok rows) →
        (∃ clauses, compileFacetFilters p predicates = .ok clauses) →
          SelectsWhatIsMet p facets predicates) := by
  constructor
  · rintro h ⟨rows, hrows⟩ ⟨clauses, hclauses⟩
    have hiff := (conditionHolds_iff hrows hclauses).symm.trans (h rows clauses hrows hclauses)
    exact ⟨hiff.mpr, hiff.mp⟩
  · intro h rows clauses hrows hclauses
    have hselects := h ⟨rows, hrows⟩ ⟨clauses, hclauses⟩
    rw [conditionHolds_iff hrows hclauses]
    exact ⟨hselects.met, hselects.selected⟩

/-! ### A moment that is not found -/

def newYear : String := "2026-01-01T00:00:00+00:00"

/-- The only moment that is read is the start of a year, in microseconds. -/
def samplePlatform : Platform where
  runtime :=
    { digest := fun parts => String.join parts
      str := fun value => match value with
        | .text value => value
        | _ => ""
      numeric := fun value => match value with
        | .number value => some value
        | _ => none
      timestamp := fun text => if text = newYear then some 1767225600000000 else none }
  float value := some value
  textLess a b := a < b
  numeric_number _ := rfl

def publishedAt : ProjectionFacetWrite := ⟨"published_at", "timestamp", .text newYear, 0⟩

/-- The predicate for that moment does not find the facet. -/
theorem publishedAt_not_queryable :
    ¬ Queryable samplePlatform "krec_1" [publishedAt]
      [⟨"published_at", .compare .eq (.scalar (.text newYear))⟩] := by
  intro h
  have hmet : AllMet samplePlatform [publishedAt]
      [⟨"published_at", .compare .eq (.scalar (.text newYear))⟩] := by
    intro predicate hmem
    obtain rfl := List.mem_singleton.mp hmem
    refine ⟨publishedAt, List.mem_singleton_self _, rfl, ?_⟩
    have hstored : facetColumn samplePlatform.runtime publishedAt =
        .ok (.timestamp 1767225600000000) := by
      have hmoment : samplePlatform.runtime.timestamp
          (samplePlatform.runtime.str (.text newYear)) = some 1767225600000000 := by
        show (if newYear = newYear then some (1767225600000000 : ℤ) else none) = _
        exact if_pos rfl
      have htype : publishedAt.valueType = "timestamp" := rfl
      have hvalue : publishedAt.value = .text newYear := rfl
      rw [facetColumn, htype, hvalue, hmoment]
      rfl
    exact inRelation_self hstored
  obtain ⟨rows, hrows⟩ : ∃ rows, [publishedAt].mapM (facetRow samplePlatform.runtime "krec_1") =
      .ok rows := ⟨_, rfl⟩
  obtain ⟨clauses, hclauses⟩ : ∃ clauses, compileFacetFilters samplePlatform
      [⟨"published_at", .compare .eq (.scalar (.text newYear))⟩] = .ok clauses := ⟨_, rfl⟩
  have hfound := (h rows clauses hrows hclauses).mpr hmet
  rw [conditionHolds_iff hrows hclauses] at hfound
  obtain ⟨facet, hfacet, -, hselects, -⟩ := hfound _ (List.mem_singleton_self _)
  obtain rfl := List.mem_singleton.mp hfacet
  exact absurd (show ("timestamp" = "string" ∨ "timestamp" = "enum" ∨ "timestamp" = "ref") from
    hselects) (by decide)

end MindscapeLocalCore.KnowledgeRetrieval.FacetQueries
