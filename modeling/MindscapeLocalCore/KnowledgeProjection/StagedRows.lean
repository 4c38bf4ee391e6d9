import MindscapeLocalCore.KnowledgeProjection.RetrievableWrites
import MindscapeLocalCore.Library.CheckedInserts

/-!
Staging a generation: its projection, its records with their facets, its evidence units with
their channel receipts, and its graph, row by row under identifiers that are hashes of parts.
-/

namespace MindscapeLocalCore.KnowledgeProjection.StagedRows

open Library Library.Json
open KnowledgeAuthorization.Store (Binding KnowledgeResourceIdentity)
open RetrievableWrites

/-- What the writer takes from the libraries of Python and from the database. -/
structure Runtime where
  /-- the hexadecimal digest of the parts of an identifier -/
  digest : List String → String
  /-- `str(value)` -/
  str : FacetValue → String
  /-- a parameter as a numeric column takes it -/
  numeric : FacetValue → Option Number
  /-- the moment of `datetime.fromisoformat(text)` -/
  timestamp : String → Option ℤ

inductive Failure where
  /-- a primary key or a unique index -/
  | duplicateKey
  /-- a check, a foreign key or the type of a column -/
  | check
  /-- `KeyError` -/
  | missingKey
  /-- `ValueError` -/
  | value (reason : String)
  /-- `ProjectionWriteConflictError` -/
  | conflict (reason : String)
  deriving DecidableEq

/-! ### Rows -/

inductive FacetColumn where
  | text (value : String)
  | number (value : Number)
  | bool (value : Bool)
  | timestamp (value : ℤ)
  | ref (value : String)

/-- A row of `knowledge_projection_facets`. -/
structure FacetRow where
  projectionFacetId : String
  projectionRecordId : String
  facetKey : String
  facetType : String
  value : FacetColumn
  ordinal : ℤ

/-! ### Identifiers -/

variable (runtime : Runtime)

/-- `_id` -/
def identifier (label : String) (parts : List String) : String :=
  label ++ "_" ++ runtime.digest parts

def stableProjectionId (label : String) (parts : List String) : Except Failure String :=
  let normalized := parts.map PythonText.strip
  if "" ∈ normalized then
    .error (.value ("knowledge_projection_" ++ label ++ "_identity_part_required"))
  else .ok (identifier runtime label normalized)

def facetId (recordId : String) (facet : ProjectionFacetWrite) : Except Failure String :=
  stableProjectionId runtime "kfacet" [recordId, facet.key, facet.ordinal.repr]

/-! ### Records and evidence -/

/-- `bool(value)` -/
def FacetValue.truth : FacetValue → Bool
  | .text value => value ≠ ""
  | .number value => value.mantissa ≠ 0
  | .boolean value => value

/-- `value_columns` -/
def facetColumn (facet : ProjectionFacetWrite) : Except Failure FacetColumn :=
  if facet.valueType = "string" ∨ facet.valueType = "enum" then
    .ok (.text (runtime.str facet.value))
  else if facet.valueType = "number" then
    match runtime.numeric facet.value with
    | some number => .ok (.number number)
    | none => .error .check
  else if facet.valueType = "boolean" then .ok (.bool (FacetValue.truth facet.value))
  else if facet.valueType = "timestamp" then
    match runtime.timestamp (runtime.str facet.value) with
    | some moment => .ok (.timestamp moment)
    | none => .error (.value "Invalid isoformat string")
  else if facet.valueType = "ref" then .ok (.ref (runtime.str facet.value))
  else .error (.value "knowledge_projection_facet_type_forbidden")

def facetRow (recordId : String) (facet : ProjectionFacetWrite) : Except Failure FacetRow := do
  let value ← facetColumn runtime facet
  let id ← facetId runtime recordId facet
  .ok ⟨id, recordId, facet.key, facet.valueType, value, facet.ordinal⟩

end MindscapeLocalCore.KnowledgeProjection.StagedRows
