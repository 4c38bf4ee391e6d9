import MindscapeLocalCore.KnowledgeProjection.SynthesisStore
import MindscapeLocalCore.Library.DateTimes
import MindscapeLocalCore.Library.Sorting

/-!
The projection of knowledge entries into a document: the manifest of one input is created once,
and every later projection of it is compared with the manifest.
-/

namespace MindscapeLocalCore.KnowledgeProjection.Manifests

open Library Library.DateTimes Library.Json Library.Sorting GroupSynthesis
open SynthesisStore (sameOn keep)

inductive ScopeType where
  | workspace
  | group
  | agent
  | humanReview
deriving DecidableEq

def ScopeType.text : ScopeType → String
  | .workspace => "workspace"
  | .group => "group"
  | .agent => "agent"
  | .humanReview => "human_review"

/-- `KnowledgeProjectionEntry` -/
structure Entry where
  memoryVersionId : String
  stableSubjectKey : String
  title : String
  claim : String
  summary : String
  lifecycleStatus : String
  verificationStatus : String
  confidence : Number
  evidenceRefs : List String
deriving DecidableEq

/-- `KnowledgeProjectionRequest` -/
structure Request where
  projectionType : String
  scopeType : ScopeType
  scopeId : String
  topologySnapshotId : Option String
  policyRevision : String
  generatorRevision : String
  logicalGeneratedAt : DateTime
  artifactRef : String
  entries : List Entry
  metadata : Dict

/-- `KnowledgeProjectionResult` -/
structure Result where
  projectionId : String
  inputRevisionHash : String
  contentHash : String
  markdown : String
  artifactRef : String
  created : Bool
deriving DecidableEq

/-- `knowledge_projection_manifests` -/
structure Manifest where
  id : String
  projectionType : String
  scopeType : String
  scopeId : String
  topologySnapshotId : Option String
  inputRevisionHash : String
  contentHash : String
  artifactRef : String
  generatorRevision : String
  evidenceRefs : List String
  metadata : Dict
  generatedAt : DateTime

structure Store where
  /-- the ids of `workspace_group_topology_snapshots` -/
  snapshots : List String
  manifests : List Manifest

inductive Failure where
  /-- a primary or a foreign key of the database -/
  | integrity
  | admission
  /-- `KnowledgeProjectionConflictError` -/
  | conflict
deriving DecidableEq

/-! ### The canonical input -/

/-- `entry.model_dump(mode="json")`, in the order of `sort_keys`. -/
def Entry.document (entry : Entry) : Json :=
  .obj [("claim", .str entry.claim), ("confidence", .num entry.confidence),
    ("evidence_refs", .arr (entry.evidenceRefs.map Json.str)),
    ("lifecycle_status", .str entry.lifecycleStatus),
    ("memory_version_id", .str entry.memoryVersionId),
    ("stable_subject_key", .str entry.stableSubjectKey), ("summary", .str entry.summary),
    ("title", .str entry.title), ("verification_status", .str entry.verificationStatus)]

def entryKey (entry : Entry) : List String := [entry.stableSubjectKey, entry.memoryVersionId]

def canonicalEntry (entry : Entry) : Entry :=
  { entry with evidenceRefs := sortedSet entry.evidenceRefs }

def canonicalEntries (request : Request) : List Entry :=
  (sortBy (· ≤ ·) entryKey request.entries).map canonicalEntry

def evidenceRefs (request : Request) : List String :=
  sortedSet ((canonicalEntries request).flatMap Entry.evidenceRefs)

def optional : Option String → Json
  | none => .null
  | some value => .str value

/-- The document that `_canonicalize` hashes. -/
def canonical (request : Request) : Json :=
  .obj [("entries", .arr ((canonicalEntries request).map Entry.document)),
    ("policy_revision", .str request.policyRevision),
    ("projection_type", .str request.projectionType), ("scope_id", .str request.scopeId),
    ("scope_type", .str request.scopeType.text),
    ("topology_snapshot_id", optional request.topologySnapshotId)]

variable (runtime : Runtime)

def inputRevisionHash (request : Request) : String := hashJson runtime (canonical request)

def projectionId (request : Request) : String :=
  shortId runtime "kp_" 32 (request.projectionType ++ nul ++ request.scopeType.text ++ nul ++
    request.scopeId ++ nul ++ inputRevisionHash runtime request)

/-! ### The document -/

/-- `json.dumps(value, ensure_ascii=False, sort_keys=True)` -/
def dumps (value : Json) : String :=
  JsonText.render
    { itemSeparator := ", "
      keySeparator := ": "
      number := runtime.float } value

def frontmatter (request : Request) : List (String × Json) :=
  [("projection_id", .str (projectionId runtime request)),
    ("projection_type", .str request.projectionType),
    ("scope", .str (request.scopeType.text ++ ":" ++ request.scopeId)),
    ("topology_snapshot_id", optional request.topologySnapshotId),
    ("input_revision_hash", .str (inputRevisionHash runtime request)),
    ("generated_at", .str (isoformat request.logicalGeneratedAt)),
    ("generator_revision", .str request.generatorRevision),
    ("evidence_index", .arr ((evidenceRefs request).map Json.str))]

def frontmatterLine (item : String × Json) : String := item.1 ++ ": " ++ dumps runtime item.2

def entryLines (entry : Entry) : List String :=
  ["## " ++ (if entry.title = "" then entry.stableSubjectKey else entry.title), "", entry.claim, "",
      "Status: " ++ entry.lifecycleStatus ++ " / " ++ entry.verificationStatus ++
        " · confidence=" ++ runtime.fixed entry.confidence] ++
    (if entry.summary = "" then [] else ["", entry.summary]) ++
    (if entry.evidenceRefs = [] then []
      else ["", "Evidence: " ++ ", ".intercalate entry.evidenceRefs]) ++ [""]

def renderMarkdown (request : Request) : String :=
  rstrip ("\n".intercalate
    ("---" :: (frontmatter runtime request).map (frontmatterLine runtime) ++
      ["---", "", "# " ++ request.projectionType, ""] ++
      (canonicalEntries request).flatMap (entryLines runtime))) ++ "\n"

def contentHash (request : Request) : String := runtime.sha256 (renderMarkdown runtime request)

/-! ### The manifest -/

/-- `uq_knowledge_projection_revision` -/
def sameRevision (a b : Manifest) : Prop :=
  (a.projectionType, a.scopeType, a.scopeId, a.inputRevisionHash) =
    (b.projectionType, b.scopeType, b.scopeId, b.inputRevisionHash)

instance : DecidableRel sameRevision := fun _ _ => inferInstanceAs (Decidable (_ = _))

def manifestRow (request : Request) : Manifest :=
  { id := projectionId runtime request
    projectionType := request.projectionType
    scopeType := request.scopeType.text
    scopeId := request.scopeId
    topologySnapshotId := request.topologySnapshotId
    inputRevisionHash := inputRevisionHash runtime request
    contentHash := contentHash runtime request
    artifactRef := request.artifactRef
    generatorRevision := request.generatorRevision
    evidenceRefs := evidenceRefs request
    metadata := request.metadata
    generatedAt := request.logicalGeneratedAt }

def SnapshotKnown (s : Store) (row : Manifest) : Prop :=
  ∀ snapshot ∈ row.topologySnapshotId, snapshot ∈ s.snapshots

instance (s : Store) (row : Manifest) : Decidable (SnapshotKnown s row) :=
  inferInstanceAs (Decidable (∀ _ ∈ _, _))

/-- `get_or_create_manifest`: the rows that the insertion returns come before those that were
there under the same revision. -/
def getOrCreateManifest (s : Store) (row : Manifest) :
    Except Failure (Store × Manifest × Bool) :=
  match UniqueInsert.insertOnConflict sameRevision (sameOn Manifest.id) (keep row) row
      s.manifests with
  | none => .error .integrity
  | some manifests =>
      let inserted := manifests.drop s.manifests.length
      if inserted ≠ [] ∧ ¬ SnapshotKnown s row then .error .integrity
      else
        let present := s.manifests.filter fun old => sameRevision row old
        match inserted.map (fun new => (new, true)) ++ present.map (fun old => (old, false)) with
        | [] => .error .admission
        | (manifest, created) :: _ => .ok ({ s with manifests := manifests }, manifest, created)

/-- `KnowledgeProjectionService.project`: the transaction ends before the hashes are compared. -/
def project (s : Store) (request : Request) : Store × Except Failure Result :=
  match getOrCreateManifest s (manifestRow runtime request) with
  | .error failure => (s, .error failure)
  | .ok (s', manifest, created) =>
      if manifest.contentHash ≠ contentHash runtime request then (s', .error .conflict)
      else (s', .ok
        { projectionId := manifest.id
          inputRevisionHash := inputRevisionHash runtime request
          contentHash := contentHash runtime request
          markdown := renderMarkdown runtime request
          artifactRef := manifest.artifactRef
          created := created })

/-! ### Stores and what is done to them -/

structure Valid (s : Store) : Prop where
  ids : UniqueInsert.Apart (sameOn Manifest.id) s.manifests
  revisions : UniqueInsert.Apart sameRevision s.manifests

inductive Write : Store → Store → Prop where
  | project (s : Store) (request : Request) : Write s (project runtime s request).1
  /-- the insertion of a row by the synthesis of a group -/
  | insert (s : Store) (row : Manifest) (manifests : List Manifest)
      (hinsert : UniqueInsert.insertOnConflict sameRevision (sameOn Manifest.id) (keep row) row
        s.manifests = some manifests) : Write s { s with manifests := manifests }
  | snapshots (s : Store) (snapshots : List String) : Write s { s with snapshots := snapshots }

abbrev Later : Store → Store → Prop := Relation.ReflTransGen (Write runtime)

end MindscapeLocalCore.KnowledgeProjection.Manifests
