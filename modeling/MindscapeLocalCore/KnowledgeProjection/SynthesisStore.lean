import MindscapeLocalCore.KnowledgeProjection.GroupSynthesis
import MindscapeLocalCore.Library.Table
import MindscapeLocalCore.Library.UniqueInsert

/-!
The tables of group synthesis, and the two transactions that write them: the commit of a plan
and the decision of a review.
-/

namespace MindscapeLocalCore.KnowledgeProjection.SynthesisStore

open Library Library.Json GroupSynthesis

/-- `knowledge_projection_manifests` -/
structure Manifest where
  id : String
  projectionType : String
  scopeType : String
  scopeId : String
  topologySnapshotId : String
  inputRevisionHash : String
  contentHash : String
  artifactRef : String
  generatorRevision : String
  evidenceRefs : List String
deriving DecidableEq

inductive ReceiptStatus where
  | candidate
  | approved
  | changesRequested
  | rejected
deriving DecidableEq

def ReceiptStatus.Terminal (status : ReceiptStatus) : Prop := status = .approved ∨ status = .rejected

instance (status : ReceiptStatus) : Decidable status.Terminal :=
  inferInstanceAs (Decidable (_ ∨ _))

/-- `group_synthesis_receipts` -/
structure Receipt where
  id : String
  runId : String
  groupId : String
  topologySnapshotId : String
  inputHash : String
  policyRevision : String
  status : ReceiptStatus
  candidateMemoryIds : List String
  conflictSets : List ConflictSet
  reviewProjectionId : String
  claimCount : ℕ
deriving DecidableEq

inductive Decision where
  | approve
  | requestChanges
  | reject
deriving DecidableEq

def Decision.text : Decision → String
  | .approve => "approve"
  | .requestChanges => "request_changes"
  | .reject => "reject"

/-- `target_status` -/
def Decision.target : Decision → ReceiptStatus
  | .approve => .approved
  | .requestChanges => .changesRequested
  | .reject => .rejected

/-- `group_synthesis_review_receipts` -/
structure ReviewReceipt where
  id : String
  synthesisReceiptId : String
  decision : Decision
  actorUserId : String
  reason : String
  decisionHash : String
deriving DecidableEq

/-- `memory_items` -/
structure MemoryItem where
  id : String
  subjectId : String
  contextType : String
  contextId : String
  title : String
  claim : String
  summary : String
  confidence : Number
  verificationStatus : String
  lifecycleStatus : String
  createdFromRunId : String
  agentIds : List String
  agentRoles : List String
  topologySnapshotId : String
  policyRevision : String
deriving DecidableEq

/-- `memory_versions` -/
structure MemoryVersion where
  id : String
  memoryItemId : String
  versionNo : ℕ
  updateMode : String
  claimSnapshot : String
  summarySnapshot : String
  createdFromRunId : String
deriving DecidableEq

/-- `memory_evidence_links` -/
structure EvidenceLink where
  id : String
  memoryItemId : String
  evidenceType : String
  evidenceId : String
  linkRole : String
  confidence : Number
deriving DecidableEq

/-- `memory_edges` -/
structure MemoryEdge where
  id : String
  fromMemoryId : String
  toMemoryId : String
  edgeType : String
  runId : String
deriving DecidableEq

structure Store where
  /-- the group of each row of `workspace_group_topology_snapshots` -/
  snapshots : String → Option String
  manifests : List Manifest
  receipts : List Receipt
  reviews : List ReviewReceipt
  items : List MemoryItem
  versions : List MemoryVersion
  links : List EvidenceLink
  edges : List MemoryEdge

def sameOn {α : Type} (key : α → String) (a b : α) : Prop := key a = key b

instance {α : Type} (key : α → String) : DecidableRel (sameOn key) :=
  fun a b => inferInstanceAs (Decidable (key a = key b))

def never {α : Type} (_ _ : α) : Prop := False

instance {α : Type} : DecidableRel (never : α → α → Prop) := fun _ _ => isFalse id

/-- `uq_knowledge_projection_revision` -/
def sameProjection (a b : Manifest) : Prop :=
  (a.projectionType, a.scopeType, a.scopeId, a.inputRevisionHash) =
    (b.projectionType, b.scopeType, b.scopeId, b.inputRevisionHash)

instance : DecidableRel sameProjection := fun _ _ => inferInstanceAs (Decidable (_ = _))

/-- `uq_group_synthesis_run_input` -/
def sameRunInput (a b : Receipt) : Prop := (a.runId, a.inputHash) = (b.runId, b.inputHash)

instance : DecidableRel sameRunInput := fun _ _ => inferInstanceAs (Decidable (_ = _))

/-- `uq_memory_versions_item_version` -/
def sameItemVersion (a b : MemoryVersion) : Prop :=
  (a.memoryItemId, a.versionNo) = (b.memoryItemId, b.versionNo)

instance : DecidableRel sameItemVersion := fun _ _ => inferInstanceAs (Decidable (_ = _))

/-- `uq_memory_evidence_links_identity` -/
def sameLink (a b : EvidenceLink) : Prop :=
  (a.memoryItemId, a.evidenceType, a.evidenceId, a.linkRole) =
    (b.memoryItemId, b.evidenceType, b.evidenceId, b.linkRole)

instance : DecidableRel sameLink := fun _ _ => inferInstanceAs (Decidable (_ = _))

/-- `ON CONFLICT … DO NOTHING` -/
def keep {α : Type} (_ old : α) : α := old

variable (runtime : Runtime)

/-- The row of `_ensure_review_projection`. -/
def manifestRow (handoff : Handoff) (plan : Plan) : Manifest :=
  { id := plan.projectionId
    projectionType := "human_review"
    scopeType := "human_review"
    scopeId := handoff.groupId
    topologySnapshotId := handoff.topologySnapshotId
    inputRevisionHash := plan.inputHash
    contentHash := plan.projectionContentHash
    artifactRef := "projection://" ++ plan.projectionId ++ ".md"
    generatorRevision := handoff.policyRevision
    evidenceRefs := plan.evidenceRefs }

def receiptRow (handoff : Handoff) (plan : Plan) : Receipt :=
  { id := plan.receiptId
    runId := handoff.runId
    groupId := handoff.groupId
    topologySnapshotId := handoff.topologySnapshotId
    inputHash := plan.inputHash
    policyRevision := handoff.policyRevision
    status := .candidate
    candidateMemoryIds := plan.candidateMemoryIds
    conflictSets := plan.conflictSets
    reviewProjectionId := plan.projectionId
    claimCount := handoff.claims.length }

def itemRow (handoff : Handoff) (row : CandidateRow) : MemoryItem :=
  { id := row.memoryId
    subjectId := row.variant.stableSubjectKey
    contextType := "group"
    contextId := handoff.groupId
    title := if row.variant.title = "" then row.variant.stableSubjectKey else row.variant.title
    claim := row.variant.claim
    summary := row.variant.summary
    confidence := row.variant.confidence
    verificationStatus := "unverified"
    lifecycleStatus := "candidate"
    createdFromRunId := handoff.runId
    agentIds := row.variant.agentIds
    agentRoles := row.variant.agentRoles
    topologySnapshotId := handoff.topologySnapshotId
    policyRevision := handoff.policyRevision }

/-- `_next_version_numbers`, of one item. -/
def nextVersionNo (versions : List MemoryVersion) (memoryId : String) : ℕ :=
  ((Table.select MemoryVersion.memoryItemId memoryId versions).map
    MemoryVersion.versionNo).foldl max 0 + 1

def versionRow (handoff : Handoff) (versions : List MemoryVersion) (row : CandidateRow) :
    MemoryVersion :=
  { id := shortId runtime "gmv_" 32 (handoff.runId ++ nul ++ row.memoryId)
    memoryItemId := row.memoryId
    versionNo := nextVersionNo versions row.memoryId
    updateMode := "merge"
    claimSnapshot := row.variant.claim
    summarySnapshot := row.variant.summary
    createdFromRunId := handoff.runId }

def linkRow (row : CandidateRow) (ref : String) : EvidenceLink :=
  { id := shortId runtime "gme_" 32 (row.memoryId ++ nul ++ ref)
    memoryItemId := row.memoryId
    evidenceType := "agent_output"
    evidenceId := ref
    linkRole := "supports"
    confidence := row.variant.confidence }

def edgeRow (runId left right : String) : MemoryEdge :=
  { id := shortId runtime "gmedge_" 30 (left ++ nul ++ right)
    fromMemoryId := left
    toMemoryId := right
    edgeType := "contradicts"
    runId := runId }

/-- `combinations(items, 2)` -/
def pairs : List String → List (String × String)
  | [] => []
  | first :: rest => rest.map (fun other => (first, other)) ++ pairs rest

def edgeRows (handoff : Handoff) (plan : Plan) : List MemoryEdge :=
  plan.conflictSets.flatMap fun conflict => (pairs conflict.memoryIds).flatMap fun pair =>
    [edgeRow runtime handoff.runId pair.1 pair.2, edgeRow runtime handoff.runId pair.2 pair.1]

def linkRows (plan : Plan) : List EvidenceLink :=
  plan.candidateRows.flatMap fun row => row.variant.evidenceRefs.map (linkRow runtime row)

/-- `_write_candidates`, unless a unique index refuses a row. -/
def writeCandidates (s : Store) (handoff : Handoff) (plan : Plan) : Option Store := do
  let items ← UniqueInsert.insertAll (sameOn MemoryItem.id) never keep
    (plan.candidateRows.map (itemRow handoff)) s.items
  let versions ← UniqueInsert.insertAll (sameOn MemoryVersion.id) sameItemVersion keep
    (plan.candidateRows.map (versionRow runtime handoff s.versions)) s.versions
  let links ← UniqueInsert.insertAll sameLink (sameOn EvidenceLink.id) keep
    (linkRows runtime plan) s.links
  let edges ← UniqueInsert.insertAll (sameOn MemoryEdge.id) never keep
    (edgeRows runtime handoff plan) s.edges
  return { s with
    items := items
    versions := versions
    links := links
    edges := edges }

def findReceipt (receipts : List Receipt) (row : Receipt) : Option Receipt :=
  receipts.find? fun old => sameRunInput row old

/-- The part of `commit` after the projection. -/
def recordReceipt (s : Store) (handoff : Handoff) (plan : Plan) :
    Option (Store × Receipt × Bool) :=
  let row := receiptRow handoff plan
  match findReceipt s.receipts row with
  | some existing => some (s, existing, false)
  | none => do
      let receipts ← UniqueInsert.insertRow (sameOn Receipt.id) row s.receipts
      -- the foreign key of the projection
      guard (row.reviewProjectionId ∈ s.manifests.map Manifest.id)
      let written ← writeCandidates runtime { s with receipts := receipts } handoff plan
      return (written, row, true)

/-- `commit`: the store and the receipt, and whether it was created, unless it raises. -/
def commit (s : Store) (handoff : Handoff) (plan : Plan) : Option (Store × Receipt × Bool) :=
  if s.snapshots handoff.topologySnapshotId = some handoff.groupId then do
    let manifests ← UniqueInsert.insertOnConflict sameProjection (sameOn Manifest.id) id
      (manifestRow handoff plan) s.manifests
    recordReceipt runtime { s with manifests := manifests } handoff plan
  else none

/-- `GroupSynthesisReviewCommand` -/
structure ReviewCommand where
  synthesisReceiptId : String
  decision : Decision
  actorUserId : String
  reason : String
deriving DecidableEq

def ReviewCommand.document (command : ReviewCommand) : Json :=
  .obj [("actor_user_id", .str command.actorUserId), ("decision", .str command.decision.text),
    ("reason", .str command.reason), ("synthesis_receipt_id", .str command.synthesisReceiptId)]

def decisionHash (command : ReviewCommand) : String := hashJson runtime command.document

def reviewId (command : ReviewCommand) : String :=
  shortId runtime "gsrr_" 31 (command.synthesisReceiptId ++ nul ++ decisionHash runtime command)

def reviewRow (command : ReviewCommand) : ReviewReceipt :=
  { id := reviewId runtime command
    synthesisReceiptId := command.synthesisReceiptId
    decision := command.decision
    actorUserId := command.actorUserId
    reason := command.reason
    decisionHash := decisionHash runtime command }

def findReview (reviews : List ReviewReceipt) (command : ReviewCommand) : Option ReviewReceipt :=
  reviews.find? fun review => review.synthesisReceiptId = command.synthesisReceiptId ∧
    review.decisionHash = decisionHash runtime command

/-- The update of `memory_items`. -/
def reviewItem (groupId : String) (memoryIds : List String) (decision : Decision)
    (item : MemoryItem) : MemoryItem :=
  if item.id ∈ memoryIds ∧ item.contextType = "group" ∧ item.contextId = groupId then
    { item with
      lifecycleStatus := if decision = .approve then "active" else "archived"
      verificationStatus := if decision = .approve then "verified" else "rejected" }
  else item

def reviewVersion (command : ReviewCommand) (versions : List MemoryVersion) (item : MemoryItem) :
    MemoryVersion :=
  { id := shortId runtime "gmrv_" 31 (reviewId runtime command ++ nul ++ item.id)
    memoryItemId := item.id
    versionNo := nextVersionNo versions item.id
    updateMode := "append"
    claimSnapshot := item.claim
    summarySnapshot := item.summary
    createdFromRunId := reviewId runtime command }

def reviewMemories (s : Store) (synthesis : Receipt) (command : ReviewCommand) : Option Store :=
  if command.decision = .requestChanges ∨ synthesis.candidateMemoryIds = [] then some s
  else do
    let items := s.items.map
      (reviewItem synthesis.groupId synthesis.candidateMemoryIds command.decision)
    let named := items.filter fun item => item.id ∈ synthesis.candidateMemoryIds
    let versions ← UniqueInsert.insertAll (sameOn MemoryVersion.id) sameItemVersion keep
      (named.map (reviewVersion runtime command s.versions)) s.versions
    return { s with
      items := items
      versions := versions }

/-- `GroupSynthesisReviewRepository.decide` -/
def decide (s : Store) (command : ReviewCommand) : Option (Store × ReviewReceipt × Bool) :=
  match Table.lookup Receipt.id command.synthesisReceiptId s.receipts with
  | none => none
  | some synthesis =>
      match findReview runtime s.reviews command with
      | some existing => some (s, existing, false)
      | none =>
          if synthesis.status.Terminal then none
          else do
            let review := reviewRow runtime command
            let reviews ← UniqueInsert.insertRow (sameOn ReviewReceipt.id) review s.reviews
            let s ← reviewMemories runtime { s with reviews := reviews } synthesis command
            return ({ s with
              receipts := Table.amend Receipt.id synthesis.id
                (fun receipt => { receipt with status := command.decision.target }) s.receipts },
              review, true)

/-- `GroupSynthesisReviewService.decide`, for an actor who may or may not see the group. -/
def serviceDecide (s : Store) (command : ReviewCommand) (allowed : Bool) :
    Option (Store × ReviewReceipt × Bool) :=
  if allowed then decide runtime s command else none

end MindscapeLocalCore.KnowledgeProjection.SynthesisStore
