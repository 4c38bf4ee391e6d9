import MindscapeLocalCore.KnowledgeAuthorization.Store
import MindscapeLocalCore.KnowledgeGraph.Contracts
import MindscapeLocalCore.Library.ItemDict
import MindscapeLocalCore.Library.Table

/-!
A complete generation of a projection as its constructors accept it: records with their facets,
evidence units with their channels, and the graph.
-/

namespace MindscapeLocalCore.KnowledgeProjection.RetrievableWrites

open Library Library.Json KnowledgeGraph.Contracts
open PythonText (Blank)

inductive FacetValue where
  | text (value : String)
  | number (value : Number)
  | boolean (value : Bool)

structure ProjectionFacetWrite where
  key : String
  valueType : String
  value : FacetValue
  ordinal : ℤ

end MindscapeLocalCore.KnowledgeProjection.RetrievableWrites
