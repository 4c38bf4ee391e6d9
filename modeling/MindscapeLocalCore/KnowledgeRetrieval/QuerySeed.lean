import MindscapeLocalCore.KnowledgeRetrieval.Scopes
import MindscapeLocalCore.Library.ItemDict

/-!
The text searched for: the explicit query, and the texts behind cited evidence that the context is
authorised for.
-/

namespace MindscapeLocalCore.KnowledgeRetrieval.QuerySeed

open Library Library.ItemDict Library.Json
open KnowledgeAuthorization.Store (hexdigest)
open Tables Scopes

/-- What the database computes with texts and vectors, and the embedding service. -/
structure Engine where
  TsQuery : Type
  TsVector : Type
  /-- a JSON value that is no text, as `->>` writes it -/
  jsonbText : Json → String
  /-- `str` of a JSON value that is no text -/
  pythonText : Json → String
  /-- the order of the collation -/
  textLe : String → String → Bool
  /-- `\w` of a regular expression -/
  isWord : Char → Bool
  websearchToTsquery : String → TsQuery
  toTsquery : String → TsQuery
  either : TsQuery → TsQuery → TsQuery
  toTsvector : String → TsVector
  setweight : TsVector → Char → TsVector
  append : TsVector → TsVector → TsVector
  contains : TsVector → TsQuery → Bool
  tsRankCd : TsVector → TsQuery → Float
  ilike : String → String → Bool
  cosineDistance : List Float → List Float → Float
  generateEmbedding : String → Option (List Float × String)

variable (engine : Engine)

/-! ### Lexical queries -/

/-- The maximal runs of the characters that pass a test, after those of `current`. -/
def runsFrom (test : Char → Bool) (current : List Char) : List Char → List (List Char)
  | [] => if current = [] then [] else [current]
  | c :: rest =>
      if test c then runsFrom test (current ++ [c]) rest
      else if current = [] then runsFrom test [] rest
      else current :: runsFrom test [] rest

def runs (test : Char → Bool) (text : String) : List (List Char) := runsFrom test [] text.toList

/-- `_CJK_RUN` -/
def isCjk (c : Char) : Bool :=
  (0x3400 ≤ c.toNat && c.toNat ≤ 0x4dbf) || (0x4e00 ≤ c.toNat && c.toNat ≤ 0x9fff) ||
    (0x20000 ≤ c.toNat && c.toNat ≤ 0x2fa1f)

def collect (limit : ℕ) (texts : List String) : List String :=
  texts.foldl
    (fun kept text => if limit ≤ kept.length ∨ text ∈ kept then kept else kept ++ [text]) []

def bigrams (run : List Char) : List String :=
  (run.zip run.tail).map fun pair => String.ofList [pair.1, pair.2]

def cjkPrefixTsquery (query : String) : String :=
  " | ".intercalate
    ((collect 64 ((runs isCjk query).flatMap bigrams)).map fun item => item ++ ":*")

def lexicalQuery (effectiveQuery : String) : engine.TsQuery :=
  let cjkPrefixQuery := cjkPrefixTsquery effectiveQuery
  if cjkPrefixQuery = "" then engine.websearchToTsquery effectiveQuery
  else engine.either (engine.websearchToTsquery effectiveQuery) (engine.toTsquery cjkPrefixQuery)

/-- `token.strip("._-")` -/
def stripToken (token : List Char) : String :=
  let ends := fun c => c = '.' || c = '_' || c = '-'
  String.ofList ((token.dropWhile ends).reverse.dropWhile ends).reverse

/-- `text[:n]` -/
def takeText (n : ℕ) (text : String) : String := String.ofList (text.toList.take n)

def websearchQueryFromSeed (explicitQuery seedQuery : String) : String :=
  let explicit := PythonText.strip explicitQuery
  let tokens := (runs (fun c => engine.isWord c || c = '.' || c = '-') seedQuery).map stripToken
  takeText 8000 (" OR ".intercalate
    ((if explicit = "" then [] else [explicit]) ++
      collect 64 (tokens.filter fun token => 2 ≤ token.length)))

/-! ### Cited evidence -/

structure CitationLookup where
  citationId : String
  contentHash : String

def expectedHashes (citations : List CitationLookup) : List (String × String) :=
  citations.foldl
    (fun expected citation => setItem citation.citationId citation.contentHash expected) []

/-- `citation_id.split(":", 1)` -/
def splitCitation (citationId : String) : Except String (String × String) :=
  match citationId.toList.span (· ≠ ':') with
  | (kind, _ :: identity) => .ok (String.ofList kind, String.ofList identity)
  | (_, []) => .error "not enough values to unpack (expected 2, got 1)"

def identitiesOf (kind : String) (citations : List (String × String)) : List String :=
  (citations.filter fun citation => citation.1 = kind).map Prod.snd

structure SeedText where
  citationId : String
  contentHash : String
  content : String
  knowledgeResourceId : String
  authzRevision : ℕ

variable (db : Database) (context : QueryContext)

def documentSeeds (ids : List String) : List SeedText :=
  (seedProjections db context).flatMap fun authorized =>
    (db.documents.filter fun document =>
      document.projectionRevisionId = some authorized.projectionRevisionId ∧
        document.knowledgeResourceId = some authorized.knowledgeResourceId ∧
        document.id ∈ ids).map fun document =>
      { citationId := "external_doc:" ++ document.id
        contentHash := hexdigest document.content
        content := document.content
        knowledgeResourceId := authorized.knowledgeResourceId
        authzRevision := authorized.authzRevision }

def recordSeeds (ids : List String) : List SeedText :=
  (seedProjections db context).flatMap fun authorized =>
    (db.records.filter fun record =>
      record.projectionRevisionId = authorized.projectionRevisionId ∧
        record.knowledgeResourceId = authorized.knowledgeResourceId ∧
        record.projectionRecordId ∈ ids).map fun record =>
      { citationId := "projection_record:" ++ record.projectionRecordId
        contentHash := record.contentHash
        content := record.searchText
        knowledgeResourceId := authorized.knowledgeResourceId
        authzRevision := authorized.authzRevision }

def evidenceSeeds (ids : List String) : List SeedText :=
  (seedProjections db context).flatMap fun authorized =>
    (db.evidence.filter fun evidence =>
      evidence.projectionRevisionId = authorized.projectionRevisionId ∧
        evidence.knowledgeResourceId = authorized.knowledgeResourceId ∧
        evidence.evidenceUnitRowId ∈ ids).flatMap fun evidence =>
      (Relational.leftJoin (fun document : Document =>
          some document.id = evidence.externalDocId ∧
            document.projectionRevisionId = some authorized.projectionRevisionId)
        db.documents).map fun document =>
        { citationId := "evidence_unit:" ++ evidence.evidenceUnitRowId
          contentHash := evidence.contentHash
          content := (document.map Document.content).getD ""
          knowledgeResourceId := authorized.knowledgeResourceId
          authzRevision := authorized.authzRevision }

def mentionSeeds (ids : List String) : List SeedText :=
  (seedProjections db context).flatMap fun authorized =>
    (db.mentions.filter fun mention =>
      mention.projectionRevisionId = authorized.projectionRevisionId ∧
        mention.knowledgeResourceId = authorized.knowledgeResourceId ∧
        mention.mentionId ∈ ids).map fun mention =>
      { citationId := "graph_mention:" ++ mention.mentionId
        contentHash := hexdigest mention.surfaceText
        content := mention.surfaceText
        knowledgeResourceId := authorized.knowledgeResourceId
        authzRevision := authorized.authzRevision }

def reportSeeds (ids : List String) : List SeedText :=
  (seedProjections db context).flatMap fun authorized =>
    (db.communities.filter fun community =>
      community.projectionRevisionId = authorized.projectionRevisionId ∧
        community.knowledgeResourceId = authorized.knowledgeResourceId ∧
        community.securityLabelId = authorized.securityLabelId ∧
        community.authzRevision = authorized.authzRevision).flatMap fun community =>
      (db.reports.filter fun report =>
        report.communityId = community.communityId ∧ report.active = true ∧
          report.authzRevision = authorized.authzRevision ∧
          report.communityReportId ∈ ids).map fun report =>
        { citationId := "community_report:" ++ report.communityReportId
          contentHash := hexdigest report.summary
          content := report.summary
          knowledgeResourceId := authorized.knowledgeResourceId
          authzRevision := authorized.authzRevision }

/-- The five parts of the `UNION ALL`. -/
def seedTexts (citations : List (String × String)) : List SeedText :=
  documentSeeds db context (identitiesOf "external_doc" citations) ++
    recordSeeds db context (identitiesOf "projection_record" citations) ++
    evidenceSeeds db context (identitiesOf "evidence_unit" citations) ++
    mentionSeeds db context (identitiesOf "graph_mention" citations) ++
    reportSeeds db context (identitiesOf "community_report" citations)

/-- `sorted(set(bindings))` -/
def sortedBindings (bindings : List (String × ℕ)) : List (String × ℕ) :=
  bindings.dedup.mergeSort fun a b => a.1 < b.1 || (a.1 = b.1 && a.2 ≤ b.2)

/-- The rows that have the hash their citation expects; of several the last one stays. -/
def exactTexts (expected : List (String × String)) (rows : List SeedText) :
    List (String × SeedText) :=
  (rows.filter fun row => getItem row.citationId expected = some row.contentHash).foldl
    (fun exact row => setItem row.citationId row exact) []

def hydrateAuthorizedQuerySeed (citations : List CitationLookup) :
    Except String (String × List (String × ℕ)) := do
  let expected := expectedHashes citations
  if expected = [] then return ("", [])
  let identities ← expected.mapM fun item => splitCitation item.1
  let exact := exactTexts expected (seedTexts db context identities)
  if ¬ ∀ item ∈ expected, item.1 ∈ exact.map Prod.fst then
    throw "knowledge_query_evidence_ref_unavailable_or_stale"
  let parts := expected.map fun item =>
    PythonText.strip (((getItem item.1 exact).map SeedText.content).getD "")
  let effectiveQuery := takeText 8000 ("\n".intercalate (parts.filter fun part => part ≠ ""))
  if effectiveQuery = "" then
    throw "knowledge_query_evidence_ref_text_derivative_not_admitted"
  return (effectiveQuery,
    sortedBindings (exact.map fun item => (item.2.knowledgeResourceId, item.2.authzRevision)))

/-- The text that a request searches for, and the bindings of the evidence it comes from. -/
def effectiveQuery (query : String) (citations : List CitationLookup) :
    Except String (String × List (String × ℕ)) := do
  let (seedQuery, bindings) ← hydrateAuthorizedQuerySeed db context citations
  return (if citations = [] then query else websearchQueryFromSeed engine query seedQuery, bindings)

end MindscapeLocalCore.KnowledgeRetrieval.QuerySeed
