import Mathlib.Data.List.Dedup
import Mathlib.Data.List.Lex
import Mathlib.Data.List.Sort
import MindscapeLocalCore.Library.ItemDict
import MindscapeLocalCore.Library.JsonNumber
import MindscapeLocalCore.Library.JsonText
import MindscapeLocalCore.Library.PythonText
import MindscapeLocalCore.Library.HashChain

/-!
The plan of a group synthesis: claims of several agents are sorted, merged by subject and
normalized text, and rendered for review.
-/

namespace MindscapeLocalCore.KnowledgeProjection.GroupSynthesis

open Library Library.Json Library.JsonNumber

structure AgentClaim where
  agentId : String
  agentRole : String
  stableSubjectKey : String
  title : String
  claim : String
  summary : String
  confidence : Number
  evidenceRefs : List String
deriving DecidableEq

/-- `GroupSynthesisHandoff` -/
structure Handoff where
  runId : String
  groupId : String
  topologySnapshotId : String
  policyRevision : String
  claims : List AgentClaim
deriving DecidableEq

/-- What the planner takes from the libraries of Python. -/
structure Runtime where
  /-- `sha256(text.encode("utf-8")).hexdigest()` -/
  sha256 : String → String
  /-- `str.casefold` -/
  casefold : String → String
  /-- `format(value, ".3f")` -/
  fixed : Number → String
  /-- the text of a float in a JSON document -/
  float : Number → String

/-- `re.sub(r"\s+", " ", text)`, in a run of whitespace or not. -/
def collapseSpace : Bool → List Char → List Char
  | _, [] => []
  | inside, c :: rest =>
      if PythonText.isSpace c then
        if inside then collapseSpace true rest else ' ' :: collapseSpace true rest
      else c :: collapseSpace false rest

variable (runtime : Runtime)

def normalizeClaim (value : String) : String :=
  runtime.casefold (String.ofList (collapseSpace false (PythonText.strip value).toList))

/-- `claim.model_dump(mode="json")`, in the order of `sort_keys`. -/
def AgentClaim.document (claim : AgentClaim) : Json :=
  .obj [("agent_id", .str claim.agentId), ("agent_role", .str claim.agentRole),
    ("claim", .str claim.claim), ("confidence", .num claim.confidence),
    ("evidence_refs", .arr (claim.evidenceRefs.map Json.str)),
    ("stable_subject_key", .str claim.stableSubjectKey), ("summary", .str claim.summary),
    ("title", .str claim.title)]

/-- The key of a claim in `variants`. -/
def variantKey (claim : AgentClaim) : List String :=
  [claim.stableSubjectKey, normalizeClaim runtime claim.claim]

def sortKey (claim : AgentClaim) : List String :=
  [claim.stableSubjectKey, normalizeClaim runtime claim.claim, claim.agentId]

def claimLe (a b : AgentClaim) : Bool := decide (sortKey runtime a ≤ sortKey runtime b)

def canonicalClaims (claims : List AgentClaim) : List AgentClaim :=
  claims.mergeSort (claimLe runtime)

def inputPayload (handoff : Handoff) : Json :=
  .obj [("claims", .arr ((canonicalClaims runtime handoff.claims).map AgentClaim.document)),
    ("group_id", .str handoff.groupId), ("policy_revision", .str handoff.policyRevision),
    ("run_id", .str handoff.runId), ("topology_snapshot_id", .str handoff.topologySnapshotId)]

def hashJson (value : Json) : String :=
  runtime.sha256 (JsonText.render
    { itemSeparator := ","
      keySeparator := ":"
      number := runtime.float } value)

/-- The first digits of the digest of a text, after a prefix. -/
def shortId (label : String) (length : ℕ) (text : String) : String :=
  label ++ String.ofList ((runtime.sha256 text).toList.take length)

def nul : String := String.singleton (Char.ofNat 0)

structure Variant where
  stableSubjectKey : String
  normalizedClaim : String
  title : String
  claim : String
  summary : String
  confidence : Number
  agentIds : List String
  agentRoles : List String
  evidenceRefs : List String
deriving DecidableEq

def newVariant (claim : AgentClaim) : Variant :=
  { stableSubjectKey := claim.stableSubjectKey
    normalizedClaim := normalizeClaim runtime claim.claim
    title := claim.title
    claim := PythonText.strip claim.claim
    summary := PythonText.strip claim.summary
    confidence := claim.confidence
    agentIds := []
    agentRoles := []
    evidenceRefs := [] }

def Variant.add (variant : Variant) (claim : AgentClaim) : Variant :=
  { variant with
    confidence := maximum variant.confidence claim.confidence
    agentIds := variant.agentIds ++ [claim.agentId]
    agentRoles := variant.agentRoles ++ [claim.agentRole]
    evidenceRefs := variant.evidenceRefs ++ claim.evidenceRefs }

abbrev Variants := List (List String × Variant)

def addClaim (variants : Variants) (claim : AgentClaim) : Variants :=
  let key := variantKey runtime claim
  let variant := (ItemDict.getItem key variants).getD (newVariant runtime claim)
  ItemDict.setItem key (variant.add claim) variants

/-- `sorted(set(items))` -/
def sortedSet (items : List String) : List String :=
  items.dedup.mergeSort fun a b => decide (a ≤ b)

structure CandidateRow where
  variant : Variant
  memoryId : String
deriving DecidableEq

def candidateRow (groupId : String) (variant : Variant) : CandidateRow :=
  { variant := { variant with
      agentIds := sortedSet variant.agentIds
      agentRoles := sortedSet variant.agentRoles
      evidenceRefs := sortedSet variant.evidenceRefs }
    memoryId := shortId runtime "gmem_" 32
      (groupId ++ nul ++ variant.stableSubjectKey ++ nul ++ variant.normalizedClaim) }

/-- The rows, in the order of `sorted(variants)`. -/
def candidateRows (groupId : String) (claims : List AgentClaim) : List CandidateRow :=
  let variants := claims.foldl (addClaim runtime) []
  (variants.mergeSort fun a b => decide (a.1 ≤ b.1)).map fun item =>
    candidateRow runtime groupId item.2

structure ConflictSet where
  stableSubjectKey : String
  memoryIds : List String
deriving DecidableEq

/-- `by_subject[subject]` -/
def idsOfSubject (rows : List CandidateRow) (subject : String) : List String :=
  (rows.filter fun row => row.variant.stableSubjectKey = subject).map CandidateRow.memoryId

def conflictSets (rows : List CandidateRow) : List ConflictSet :=
  ((sortedSet (rows.map fun row => row.variant.stableSubjectKey)).filter fun subject =>
    1 < (idsOfSubject rows subject).length).map fun subject =>
      { stableSubjectKey := subject
        memoryIds := (idsOfSubject rows subject).mergeSort fun a b => decide (a ≤ b) }

def reviewLines (conflictIds : List String) (row : CandidateRow) : List String :=
  ["## " ++ (if row.variant.title = "" then row.variant.stableSubjectKey else row.variant.title), "",
    row.variant.claim, "", "Agents: " ++ ", ".intercalate row.variant.agentIds,
    "Roles: " ++ ", ".intercalate row.variant.agentRoles,
    "Confidence: " ++ runtime.fixed row.variant.confidence,
    "Conflict: " ++ (if row.memoryId ∈ conflictIds then "yes" else "no"),
    "Evidence: " ++ (if ", ".intercalate row.variant.evidenceRefs = "" then "(none)"
      else ", ".intercalate row.variant.evidenceRefs), ""]

/-- `str.rstrip` -/
def rstrip (text : String) : String :=
  String.ofList (text.toList.reverse.dropWhile PythonText.isSpace).reverse

def renderReviewMarkdown (handoff : Handoff) (rows : List CandidateRow)
    (conflicts : List ConflictSet) : String :=
  let conflictIds := conflicts.flatMap ConflictSet.memoryIds
  let lines := ["# Group knowledge review", "", "Group: " ++ handoff.groupId,
    "Snapshot: " ++ handoff.topologySnapshotId, "Run: " ++ handoff.runId, ""] ++
      rows.flatMap (reviewLines runtime conflictIds)
  rstrip ("\n".intercalate lines) ++ "\n"

structure Plan where
  inputHash : String
  receiptId : String
  projectionId : String
  projectionContentHash : String
  candidateRows : List CandidateRow
  candidateMemoryIds : List String
  conflictSets : List ConflictSet
  evidenceRefs : List String
  reviewMarkdown : String
deriving DecidableEq

/-- `GroupSynthesisPlanner.plan` -/
def plan (handoff : Handoff) : Plan :=
  let inputHash := hashJson runtime (inputPayload runtime handoff)
  let rows := candidateRows runtime handoff.groupId (canonicalClaims runtime handoff.claims)
  let conflicts := conflictSets rows
  let markdown := renderReviewMarkdown runtime handoff rows conflicts
  { inputHash := inputHash
    receiptId := shortId runtime "gsr_" 32 (handoff.runId ++ nul ++ inputHash)
    projectionId := shortId runtime "kp_" 32
      ("human_review" ++ nul ++ "group" ++ nul ++ handoff.groupId ++ nul ++ inputHash)
    projectionContentHash := runtime.sha256 markdown
    candidateRows := rows
    candidateMemoryIds := rows.map CandidateRow.memoryId
    conflictSets := conflicts
    evidenceRefs := sortedSet (rows.flatMap fun row => row.variant.evidenceRefs)
    reviewMarkdown := markdown }

/-- SHA-256, and the other functions where the text is in lower case and the number is 0.5. -/
def sampleRuntime : Runtime where
  sha256 text := String.ofList (Hex.hexText 64 (Sha256.sha256 text.toUTF8).toNat)
  casefold text := text
  fixed _ := "0.500"
  float _ := "0.5"

theorem sampleRuntime_eq : sampleRuntime =
    { sampleRuntime with
      sha256 := fun text =>
        let bytes := Sha256.padded text.toUTF8.data.toList
        String.ofList (Hex.hexText 64
          (Sha256.digest (Sha256.absorb (bytes.length / 64) bytes Sha256.initial)).toNat) } := by
  rw [sampleRuntime]
  simp only [Sha256.sha256_eq]

def sampleClaim (title : String) : AgentClaim where
  agentId := "a"
  agentRole := "r"
  stableSubjectKey := "s"
  title := title
  claim := "c"
  summary := "d"
  confidence := .float false 5 (-1)
  evidenceRefs := ["e"]

end MindscapeLocalCore.KnowledgeProjection.GroupSynthesis
