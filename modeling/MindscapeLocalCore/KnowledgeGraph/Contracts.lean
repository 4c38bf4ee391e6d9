import Mathlib.Data.Rat.Defs
import Mathlib.Algebra.Order.Ring.Unbundled.Rat
import MindscapeLocalCore.Library.Json
import MindscapeLocalCore.Library.PythonText

/-!
What is written of a graph: entities, their mentions, relations, communities and reports. A value
that its constructor rejects cannot be built; a confidence is its exact value.
-/

namespace MindscapeLocalCore.KnowledgeGraph.Contracts

open Library Library.Json
open PythonText (Blank)

structure GraphEntityWrite where
  canonicalKey : String
  entityType : String
  resolverRevision : String
  required : ¬ Blank canonicalKey ∧ ¬ Blank entityType ∧ ¬ Blank resolverRevision
  deriving DecidableEq

inductive RelationOrigin where
  | ownerDeclared
  | extracted
  deriving DecidableEq

structure GraphRelationWrite where
  relationKey : String
  sourceEntityKey : String
  targetEntityKey : String
  relationKind : String
  origin : RelationOrigin
  confidence : ℚ
  supportingEvidenceUnitKeys : List String
  supportingCitations : List Dict
  extractorRevision : Option String
  ownerRelationRevision : Option String
  required : ¬ Blank relationKey ∧ ¬ Blank sourceEntityKey ∧ ¬ Blank targetEntityKey ∧
    ¬ Blank relationKind
  owned : origin = .ownerDeclared → ownerRelationRevision.getD "" ≠ ""
  extracted : origin = .extracted → extractorRevision.getD "" ≠ ""
  confidence_bounds : 0 ≤ confidence ∧ confidence ≤ 1
  evidence : supportingEvidenceUnitKeys ≠ []

/-- `GraphCommunityWrite`; the level is no negative number. -/
structure GraphCommunityWrite where
  communityKey : String
  level : ℕ
  parentCommunityKey : Option String
  entityKeys : List String
  relationKeys : List String
  affectedSubgraphHash : String
  fullRebuildHash : String
  required : ¬ Blank communityKey
  entities : entityKeys ≠ []
  hashes : affectedSubgraphHash.length = 64 ∧ fullRebuildHash.length = 64
  deriving DecidableEq

def graphCommunityWrite (communityKey : String) (level : ℕ) (parentCommunityKey : Option String)
    (entityKeys relationKeys : List String) (affectedSubgraphHash fullRebuildHash : String) :
    Except String GraphCommunityWrite :=
  if hrequired : Blank communityKey then .error "knowledge_graph_community_key_required"
  else if hentities : entityKeys = [] then .error "knowledge_graph_community_entities_required"
  else if hhashes : affectedSubgraphHash.length = 64 ∧ fullRebuildHash.length = 64 then
    .ok
      { communityKey := communityKey
        level := level
        parentCommunityKey := parentCommunityKey
        entityKeys := entityKeys
        relationKeys := relationKeys
        affectedSubgraphHash := affectedSubgraphHash
        fullRebuildHash := fullRebuildHash
        required := hrequired
        entities := hentities
        hashes := hhashes }
  else .error "knowledge_graph_community_hash_invalid"

end MindscapeLocalCore.KnowledgeGraph.Contracts
