import MindscapeLocalCore.KnowledgeRetrieval.HybridSearch
import MindscapeLocalCore.Library.KeysetPaging

/-!
Coverage of a scope: a page of its source intakes, each with its latest task and the state of its
projection.
-/

namespace MindscapeLocalCore.KnowledgeProjection.Coverage

open Library Library.Json Library.KeysetPaging Library.Sorting
open KnowledgeAuthorization.WriteContracts (isToken)
open KnowledgeRetrieval.HybridSearch (RetrievalAccessContext)
open KnowledgeRetrieval.Tables (ProjectionStatus)

/-! ### Tables -/

/-- A row of `knowledge_source_states`. -/
structure SourceState where
  sourceInstanceId : String
  ownerType : String
  ownerId : String

/-- A row of `knowledge_source_intakes`; its metadata is an object. -/
structure SourceIntake where
  id : String
  sourceInstanceId : String
  sourceRevision : String
  contentHash : String
  metadata : Dict
  createdAt : ℤ

/-- A row of `knowledge_projection_task_admissions`. -/
structure TaskAdmission where
  taskId : String
  intakeId : String
  triggerMode : String
  createdAt : ℤ

/-- A row of `tasks`. -/
structure Task where
  id : String
  status : String

structure CoreDatabase where
  states : List SourceState
  intakes : List SourceIntake
  admissions : List TaskAdmission
  tasks : List Task
  /-- texts are ordered as these keys are -/
  collationKey : String → List ℕ
  collation_inj : Function.Injective collationKey
  state_keys : (states.map fun state => state.sourceInstanceId).Nodup
  intake_keys : (intakes.map fun intake => intake.id).Nodup
  task_keys : (tasks.map fun task => task.id).Nodup

/-- A row of `knowledge_resources`. -/
structure CoveredResource where
  knowledgeResourceId : String
  sourceRef : String
  sourceRevision : String
  ownerScopeType : String
  ownerScopeId : String
  active : Bool

/-- A row of `knowledge_resource_projections`. -/
structure CoveredProjection where
  knowledgeResourceId : String
  status : ProjectionStatus
  active : Bool
  activatedAt : Option ℤ

structure VectorDatabase where
  resources : List CoveredResource
  projections : List CoveredProjection
  collationKey : String → List ℕ

def statusValue : ProjectionStatus → String
  | .staged => "staged"
  | .active => "active"
  | .degradedChannels => "degraded_channels"
  | .degradedGraph => "degraded_graph"
  | .superseded => "superseded"
  | .revoked => "revoked"

/-! ### The core query -/

structure CoreRow where
  intake : SourceIntake
  taskId : Option String
  taskStatus : Option String
  taskTriggerMode : Option String

variable (db : CoreDatabase)

/-- The admission of an intake that `LEFT JOIN LATERAL` finds. -/
def latestAdmission (intakeId : String) : Option TaskAdmission :=
  (sortBy (· ≥ ·)
    (fun admission => toLex (admission.createdAt, db.collationKey admission.taskId))
    (db.admissions.filter fun admission => admission.intakeId = intakeId)).head?

def coreRow (intake : SourceIntake) : CoreRow :=
  let action := latestAdmission db intake.id
  let task := action.bind fun action => db.tasks.find? fun task => task.id = action.taskId
  { intake := intake
    taskId := task.map Task.id
    taskStatus := task.map Task.status
    taskTriggerMode := action.map TaskAdmission.triggerMode }

variable (scopeType scopeId : String)

def joinedRows : List CoreRow :=
  db.intakes.flatMap fun intake =>
    (db.states.filter fun state =>
      state.sourceInstanceId = intake.sourceInstanceId ∧
        state.ownerType = scopeType ∧ state.ownerId = scopeId).map fun _ => coreRow db intake

/-- `ORDER BY intake.created_at DESC, intake.id DESC` -/
def intakeKey (intake : SourceIntake) : ℤ ×ₗ List ℕ :=
  toLex (intake.createdAt, db.collationKey intake.id)

/-- `list_page` of the repository. -/
def coreRows (limit : ℕ) (beforeCreatedAt : Option ℤ) : List CoreRow :=
  (sortBy (· ≥ ·) (fun row => intakeKey db row.intake)
    ((joinedRows db scopeType scopeId).filter fun row =>
      ∀ cursor ∈ beforeCreatedAt, row.intake.createdAt < cursor)).take limit

/-! ### The vector query -/

structure VectorState where
  resourceActive : Bool
  projectionStatus : Option String
  projectionActive : Bool

/-- `ORDER BY source_ref, active DESC, activated_at DESC NULLS LAST`, where no row is above true. -/
def vectorKey (vector : VectorDatabase) (row : CoveredResource × Option CoveredProjection) :
    List ℕ ×ₗ ℕ ×ₗ ℕ ×ₗ ℤ :=
  let activeRank := match row.2.map CoveredProjection.active with
    | none => 0
    | some true => 1
    | some false => 2
  let activatedRank : ℕ ×ₗ ℤ := match row.2.bind CoveredProjection.activatedAt with
    | some moment => toLex (0, -moment)
    | none => toLex (1, 0)
  toLex (vector.collationKey row.1.sourceRef, toLex (activeRank, activatedRank))

def vectorRows (vector : VectorDatabase) (sourceRefs : List String) :
    List (CoveredResource × Option CoveredProjection) :=
  sortBy (· ≤ ·) (vectorKey vector)
    ((vector.resources.filter fun resource =>
      resource.ownerScopeType = scopeType ∧ resource.ownerScopeId = scopeId ∧
        resource.sourceRef ∈ sourceRefs).flatMap fun resource =>
      (Relational.leftJoin (fun projection : CoveredProjection =>
          projection.knowledgeResourceId = resource.knowledgeResourceId ∧
            (projection.active = true ∨ projection.status = .revoked))
        vector.projections).map fun projection => (resource, projection))

/-- `_vector_state`; `setdefault` keeps the first row of a source revision. -/
def vectorState (vector : VectorDatabase) (sourceRefs : List String) (key : String × String) :
    Option VectorState :=
  if sourceRefs = [] then none
  else
    ((vectorRows scopeType scopeId vector sourceRefs).find? fun row =>
      (row.1.sourceRef, row.1.sourceRevision) = key).map fun row =>
      { resourceActive := row.1.active
        projectionStatus := row.2.map fun projection => statusValue projection.status
        projectionActive := (row.2.map CoveredProjection.active).getD false }

/-! ### Items -/

structure ProjectionCoverageItem where
  intakeId : String
  sourceInstanceId : String
  sourceRevision : String
  sourceRef : String
  contentHash : String
  capabilityCode : String
  descriptorId : String
  triggerMode : String
  taskId : Option String
  taskStatus : Option String
  projectionStatus : Option String
  projectionActive : Bool
  resourceActive : Bool
  state : String
  reason : Option String
  createdAt : ℤ

/-- `str(metadata.get(key) or "")`; `pythonText` is `str` of a value that is no text. -/
def metadataText (pythonText : Json → String) (metadata : Dict) (key : String) : String :=
  match metadata.get? key with
  | none => ""
  | some (.str value) => value
  | some value => if value.truthy = true then pythonText value else ""

def coverageState (triggerMode : String) (taskId taskStatus : Option String)
    (vector : Option VectorState) : String × Option String :=
  let projectionStatus := vector.bind VectorState.projectionStatus
  let projectionActive := (vector.map VectorState.projectionActive).getD false
  let resourceActive := (vector.map VectorState.resourceActive).getD false
  if triggerMode = "revoke" ∧ resourceActive = false ∧ projectionStatus = some "revoked" then
    ("revoked", none)
  else if projectionActive = true ∧ projectionStatus = some "active" then ("active", none)
  else if projectionActive = true ∧
      (projectionStatus = some "degraded_channels" ∨ projectionStatus = some "degraded_graph") then
    ("degraded", projectionStatus)
  else
    match taskStatus with
    | some "pending" => ("pending", none)
    | some "running" => ("running", none)
    | some "failed" => ("blocked", some "task_failed")
    | some "cancelled" => ("blocked", some "task_cancelled")
    | some "cancelled_by_user" => ("blocked", some "task_cancelled_by_user")
    | _ =>
        if taskId = none then ("missing", some "missing_projection_task")
        else if taskStatus = some "succeeded" then ("missing", some "missing_active_projection")
        else ("admitted", none)

def merge (pythonText : Json → String) (vectorStates : String × String → Option VectorState)
    (row : CoreRow) : ProjectionCoverageItem :=
  let metadata := row.intake.metadata
  let sourceRef := metadataText pythonText metadata "source_ref"
  let vector := vectorStates (sourceRef, row.intake.sourceRevision)
  let triggerMode := match row.taskTriggerMode.filter fun mode => mode ≠ "" with
    | some mode => mode
    | none => metadataText pythonText metadata "trigger_mode"
  let (state, reason) := coverageState triggerMode row.taskId row.taskStatus vector
  { intakeId := row.intake.id
    sourceInstanceId := row.intake.sourceInstanceId
    sourceRevision := row.intake.sourceRevision
    sourceRef := sourceRef
    contentHash := row.intake.contentHash
    capabilityCode := metadataText pythonText metadata "capability_code"
    descriptorId := metadataText pythonText metadata "descriptor_id"
    triggerMode := triggerMode
    taskId := row.taskId
    taskStatus := row.taskStatus
    projectionStatus := vector.bind VectorState.projectionStatus
    projectionActive := (vector.map VectorState.projectionActive).getD false
    resourceActive := (vector.map VectorState.resourceActive).getD false
    state := state
    reason := reason
    createdAt := row.intake.createdAt }

/-! ### Pages -/

/-- `has_permission`; the scope of a permission is a token. -/
def hasPermission (context : RetrievalAccessContext) (name : String) : Except String Bool :=
  let target := PythonText.strip scopeId
  if isToken target = true then
    .ok (decide (∃ permission ∈ context.permissions, permission.name = name ∧
      permission.scopeType.value = scopeType ∧ permission.scopeId = target))
  else .error "knowledge_authorization_invalid_scope_id"

/-- What `list_page` checks before it reads. -/
def admitCoverage (context : RetrievalAccessContext) : Except String Unit :=
  if scopeType ∉ ["workspace", "group"] then
    .error "knowledge_projection_coverage_scope_invalid"
  else do
    if ← hasPermission scopeType scopeId context "knowledge.read" then return ()
    if ← hasPermission scopeType scopeId context "knowledge.project" then return ()
    throw "knowledge_projection_coverage_permission_required"

/-- `max(1, min(int(limit), 200))` -/
def boundedLimit (limit : ℤ) : ℕ := (max 1 (min limit 200)).toNat

/-- The page that `list_page` returns to who may read. -/
def coveragePage (pythonText : Json → String) (vector : VectorDatabase) (limit : ℤ)
    (beforeCreatedAt : Option ℤ) : Page ProjectionCoverageItem ℤ :=
  let rows := coreRows db scopeType scopeId (boundedLimit limit) beforeCreatedAt
  let sourceRefs := (rows.map fun row =>
    metadataText pythonText row.intake.metadata "source_ref").filter fun ref => ref ≠ ""
  let items := rows.map (merge pythonText (vectorState scopeType scopeId vector sourceRefs))
  { items := items
    next := if items.length = boundedLimit limit then items.getLast?.map
        ProjectionCoverageItem.createdAt
      else none }

/-- `list_page` of the service. -/
def listPage (pythonText : Json → String) (vector : VectorDatabase)
    (context : RetrievalAccessContext) (limit : ℤ) (beforeCreatedAt : Option ℤ) :
    Except String (Page ProjectionCoverageItem ℤ) := do
  admitCoverage scopeType scopeId context
  return coveragePage db scopeType scopeId pythonText vector limit beforeCreatedAt

end MindscapeLocalCore.KnowledgeProjection.Coverage
