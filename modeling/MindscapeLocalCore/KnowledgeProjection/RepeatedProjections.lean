import MindscapeLocalCore.KnowledgeProjection.CandidateRows
import MindscapeLocalCore.KnowledgeProjection.Manifests
import MindscapeLocalCore.Library.QuotedText

/-!
A projection that is asked for again: it answers with the manifest of the first one where the
entries that tie come in one order and the document is written at one time by one generator.
-/

namespace MindscapeLocalCore.KnowledgeProjection.RepeatedProjections

open Library Library.DateTimes Library.Json Library.Sorting Library.UniqueInsert CandidateRows
open GroupSynthesis
open JsonText (quote)
open Manifests QuotedText
open SynthesisStore (sameOn keep)

variable (runtime : Runtime)

structure SameInput (first again : Request) : Prop where
  projectionType : again.projectionType = first.projectionType
  scopeType : again.scopeType = first.scopeType
  scopeId : again.scopeId = first.scopeId
  topologySnapshotId : again.topologySnapshotId = first.topologySnapshotId
  policyRevision : again.policyRevision = first.policyRevision
  entries : (again.entries.map canonicalEntry).Perm (first.entries.map canonicalEntry)

def TiesInOrder (first again : Request) : Prop :=
  ∀ key, (again.entries.filter fun entry => entryKey entry = key).map canonicalEntry =
    (first.entries.filter fun entry => entryKey entry = key).map canonicalEntry

/-- Different inputs or different documents have the same hash. -/
def Collides (first again : Request) : Prop :=
  canonical again ≠ canonical first ∧
      inputRevisionHash runtime again = inputRevisionHash runtime first ∨
    renderMarkdown runtime again ≠ renderMarkdown runtime first ∧
      contentHash runtime again = contentHash runtime first

/-- A projection in `t` answers with an earlier manifest. -/
def Repeats (t : Store) (again : Request) (r : Result) : Prop :=
  ∃ r', project runtime t again = (t, .ok r') ∧ r'.projectionId = r.projectionId ∧
    r'.created = false

/-- The frontmatter of a document lists the evidence of the entries, each once and in order. -/
def Indexes (request : Request) (markdown : String) : Prop :=
  ∃ (refs : List String) (rest : String), refs.Pairwise (· < ·) ∧
    (∀ ref, ref ∈ refs ↔ ∃ entry ∈ request.entries, ref ∈ entry.evidenceRefs) ∧
    ("evidence_index", .arr (refs.map Json.str)) ∈ frontmatter runtime request ∧
    markdown = "\n".intercalate
      ("---" :: (frontmatter runtime request).map (frontmatterLine runtime)) ++ "\n---\n" ++ rest

variable {runtime} {first again request : Request}

/-! ### The canonical entries -/

theorem canonicalEntries_eq (request : Request) :
    canonicalEntries request =
      sortBy (· ≤ ·) entryKey (request.entries.map canonicalEntry) := by
  rw [sortBy_map]
  rfl

theorem canonicalEntries_eq_iff :
    canonicalEntries again = canonicalEntries first ↔ TiesInOrder first again := by
  have hfilter : ∀ (request : Request) key,
      (request.entries.map canonicalEntry).filter (fun entry => entryKey entry = key) =
        (request.entries.filter fun entry => entryKey entry = key).map canonicalEntry := by
    intro request key
    rw [List.filter_map]
    rfl
  rw [canonicalEntries_eq, canonicalEntries_eq, sortBy_eq_sortBy_iff]
  refine forall_congr' fun key => ?_
  rw [hfilter, hfilter]

theorem document_injective {a b : Entry} (h : a.document = b.document) : a = b := by
  obtain ⟨aversion, asubject, atitle, aclaim, asummary, alifecycle, averification, aconfidence,
    arefs⟩ := a
  obtain ⟨bversion, bsubject, btitle, bclaim, bsummary, blifecycle, bverification, bconfidence,
    brefs⟩ := b
  simp only [Entry.document, Json.obj.injEq, List.cons.injEq, Prod.mk.injEq, Json.str.injEq,
    Json.num.injEq, Json.arr.injEq, true_and, and_true] at h
  obtain ⟨rfl, rfl, hrefs, rfl, rfl, rfl, rfl, rfl, rfl⟩ := h
  obtain rfl := List.map_injective_iff.mpr (fun _ _ => Json.str.inj) hrefs
  rfl

theorem canonical_eq_iff (hsame : SameInput first again) :
    canonical again = canonical first ↔ TiesInOrder first again := by
  rw [← canonicalEntries_eq_iff]
  constructor
  · intro h
    simp only [canonical, Json.obj.injEq, List.cons.injEq, Prod.mk.injEq, Json.arr.injEq,
      true_and] at h
    exact List.map_injective_iff.mpr (fun _ _ => document_injective) h.1
  · intro h
    rw [canonical, canonical, h, hsame.projectionType, hsame.scopeType, hsame.scopeId,
      hsame.topologySnapshotId, hsame.policyRevision]

/-! ### The evidence -/

theorem pairwise_sortedSet (items : List String) : (sortedSet items).Pairwise (· < ·) := by
  have hsorted : (sortedSet items).Pairwise (· ≤ ·) := by
    refine (List.pairwise_mergeSort ?_ ?_ items.dedup).imp of_decide_eq_true
    · intro a b c hab hbc
      exact decide_eq_true ((of_decide_eq_true hab).trans (of_decide_eq_true hbc))
    · intro a b
      rw [Bool.or_eq_true, decide_eq_true_iff, decide_eq_true_iff]
      exact le_total a b
  have hnodup : (sortedSet items).Nodup :=
    (List.mergeSort_perm _ _).nodup_iff.mpr (List.nodup_dedup items)
  exact (hsorted.and hnodup).imp fun h => lt_of_le_of_ne h.1 h.2

theorem mem_evidenceRefs (ref : String) :
    ref ∈ evidenceRefs request ↔ ∃ entry ∈ request.entries, ref ∈ entry.evidenceRefs := by
  rw [evidenceRefs, mem_sortedSet, List.mem_flatMap]
  constructor
  · rintro ⟨entry, hentry, href⟩
    obtain ⟨original, horiginal, rfl⟩ := List.mem_map.mp hentry
    exact ⟨original, mem_sortBy.mp horiginal, mem_sortedSet.mp href⟩
  · rintro ⟨entry, hentry, href⟩
    exact ⟨canonicalEntry entry, List.mem_map_of_mem (mem_sortBy.mpr hentry),
      mem_sortedSet.mpr href⟩

/-! ### The document -/

variable (runtime) in
def body (request : Request) : String :=
  rstrip ("\n".intercalate (["", "# " ++ request.projectionType, ""] ++
    (canonicalEntries request).flatMap (entryLines runtime))) ++ "\n"

variable (runtime) in
def openingLines (request : Request) : List String :=
  "---" :: ((frontmatter runtime request).take 5).map (frontmatterLine runtime)

theorem rstrip_append {text : String} (start : String)
    (h : ∃ c ∈ text.toList, PythonText.isSpace c = false) :
    rstrip (start ++ text) = start ++ rstrip text := by
  obtain ⟨c, hmem, hc⟩ := h
  have hnonempty : text.toList.reverse.dropWhile PythonText.isSpace ≠ [] := by
    intro hnil
    have hall := List.dropWhile_eq_nil_iff.mp hnil c (List.mem_reverse.mpr hmem)
    rw [hc] at hall
    cases hall
  refine String.toList_injective ?_
  rw [rstrip, rstrip, String.toList_append, String.toList_append, String.toList_ofList,
    String.toList_ofList, List.reverse_append, List.dropWhile_append, if_neg, List.reverse_append,
    List.reverse_reverse]
  rw [List.isEmpty_iff]
  exact hnonempty

theorem intercalate_append {xs ys : List String} (hxs : xs ≠ []) (hys : ys ≠ []) :
    "\n".intercalate (xs ++ ys) = "\n".intercalate xs ++ "\n" ++ "\n".intercalate ys :=
  String.intercalate_append_of_ne_nil hxs hys

theorem intercalate_cons {line : String} {rest : List String} (h : rest ≠ []) :
    "\n".intercalate (line :: rest) = line ++ "\n" ++ "\n".intercalate rest :=
  String.intercalate_cons_of_ne_nil h

theorem renderMarkdown_eq (request : Request) :
    renderMarkdown runtime request = "\n".intercalate
      ("---" :: (frontmatter runtime request).map (frontmatterLine runtime)) ++ "\n---\n" ++
        body runtime request := by
  let rest := ["", "# " ++ request.projectionType, ""] ++
    (canonicalEntries request).flatMap (entryLines runtime)
  have hlines : "---" :: (frontmatter runtime request).map (frontmatterLine runtime) ++
      ["---", "", "# " ++ request.projectionType, ""] ++
        (canonicalEntries request).flatMap (entryLines runtime) =
      "---" :: (frontmatter runtime request).map (frontmatterLine runtime) ++ "---" :: rest :=
    List.append_assoc _ _ _
  have hheading : ∃ c ∈ ("\n".intercalate rest).toList, PythonText.isSpace c = false := by
    refine ⟨'#', ?_, by decide⟩
    show '#' ∈ ("\n".intercalate ("" :: ("# " ++ request.projectionType) :: "" ::
      (canonicalEntries request).flatMap (entryLines runtime))).toList
    rw [intercalate_cons (List.cons_ne_nil _ _), intercalate_cons (List.cons_ne_nil _ _)]
    simp
  rw [renderMarkdown, hlines, intercalate_append (List.cons_ne_nil _ _) (List.cons_ne_nil _ _),
    @intercalate_cons "---" rest (List.cons_ne_nil _ _), ← String.append_assoc,
    rstrip_append _ hheading]
  have hrule : "\n---\n" = "\n" ++ ("---" ++ "\n") := by decide
  rw [hrule, body]
  simp only [String.append_assoc, rest]

theorem indexes_renderMarkdown (request : Request) :
    Indexes runtime request (renderMarkdown runtime request) := by
  refine ⟨evidenceRefs request, body runtime request, pairwise_sortedSet _, mem_evidenceRefs,
    ?_, renderMarkdown_eq request⟩
  simp [frontmatter]

theorem frontmatter_text (request : Request) :
    "\n".intercalate ("---" :: (frontmatter runtime request).map (frontmatterLine runtime)) =
      "\n".intercalate (openingLines runtime request) ++ "\n" ++
        ("generated_at: " ++ quote (isoformat request.logicalGeneratedAt) ++ "\n" ++
          ("generator_revision: " ++ quote request.generatorRevision)) ++ "\n" ++
        frontmatterLine runtime ("evidence_index", .arr ((evidenceRefs request).map Json.str)) := by
  let generated := "generated_at: " ++ quote (isoformat request.logicalGeneratedAt)
  let generator := "generator_revision: " ++ quote request.generatorRevision
  let evidence :=
    frontmatterLine runtime ("evidence_index", .arr ((evidenceRefs request).map Json.str))
  have hlines : "---" :: (frontmatter runtime request).map (frontmatterLine runtime) =
      openingLines runtime request ++ [generated, generator] ++ [evidence] := rfl
  have hpair : "\n".intercalate [generated, generator] = generated ++ "\n" ++ generator := by
    rw [intercalate_cons (List.cons_ne_nil _ _), String.intercalate_singleton]
  have hopening : openingLines runtime request ≠ [] := List.cons_ne_nil _ _
  rw [hlines, intercalate_append (List.append_ne_nil_of_left_ne_nil hopening _)
    (List.cons_ne_nil _ _), intercalate_append hopening (List.cons_ne_nil _ _), hpair,
    String.intercalate_singleton]

theorem renderMarkdown_eq_iff (hsame : SameInput first again)
    (hcanonical : canonical again = canonical first) :
    renderMarkdown runtime again = renderMarkdown runtime first ↔
      again.logicalGeneratedAt = first.logicalGeneratedAt ∧
        again.generatorRevision = first.generatorRevision := by
  have hhash : inputRevisionHash runtime again = inputRevisionHash runtime first := by
    rw [inputRevisionHash, inputRevisionHash, hcanonical]
  have hentries : canonicalEntries again = canonicalEntries first :=
    canonicalEntries_eq_iff.mpr ((canonical_eq_iff hsame).mp hcanonical)
  have hbody : body runtime again = body runtime first := by
    rw [body, body, hsame.projectionType, hentries]
  have hopening : openingLines runtime again = openingLines runtime first := by
    simp only [openingLines, frontmatter, projectionId, hsame.projectionType, hsame.scopeType,
      hsame.scopeId, hsame.topologySnapshotId, hhash, List.take_succ_cons, List.take_zero]
  have hevidence : evidenceRefs again = evidenceRefs first := by
    rw [evidenceRefs, evidenceRefs, hentries]
  rw [renderMarkdown_eq, renderMarkdown_eq, hbody, frontmatter_text, frontmatter_text, hopening,
    hevidence]
  constructor
  · intro h
    rw [String.append_left_inj, String.append_left_inj, String.append_left_inj,
      String.append_left_inj, String.append_right_inj] at h
    have hline : ∀ label value : String, '\n' ∉ label.toList →
        '\n' ∉ (label ++ quote value).toList := by
      intro label value hlabel
      rw [String.toList_append, List.mem_append, not_or]
      exact ⟨hlabel, newline_not_mem_quote value⟩
    obtain ⟨htime, hgenerator⟩ := append_newline_inj (hline _ _ (by decide))
      (hline _ _ (by decide)) h
    exact ⟨isoformat_inj.mp (quote_injective ((String.append_right_inj _).mp htime)),
      quote_injective ((String.append_right_inj _).mp hgenerator)⟩
  · rintro ⟨htime, hgenerator⟩
    rw [htime, hgenerator]

/-! ### The manifests -/

variable {s s' t : Store} {r : Result} {row old : Manifest}

theorem insertOnConflict_present {rows : List Manifest} (hmem : old ∈ rows)
    (hsame : sameRevision row old) :
    insertOnConflict sameRevision (sameOn Manifest.id) (keep row) row rows = some rows := by
  rw [insertOnConflict, if_pos ⟨old, hmem, hsame⟩]
  exact congrArg some (resolved_eq_self fun _ _ _ => rfl)

theorem getOrCreateManifest_present (hvalid : Valid s) (hmem : old ∈ s.manifests)
    (hsame : sameRevision row old) : getOrCreateManifest s row = .ok (s, old, false) := by
  have hfound : ∃ rest, (s.manifests.filter fun old => sameRevision row old) = old :: rest := by
    have hold : old ∈ s.manifests.filter fun old => sameRevision row old :=
      List.mem_filter.mpr ⟨hmem, decide_eq_true hsame⟩
    cases hfilter : s.manifests.filter fun old => sameRevision row old with
    | nil => exact absurd (hfilter ▸ hold) List.not_mem_nil
    | cons head rest =>
        have hhead := List.mem_filter.mp (hfilter ▸ List.mem_cons_self :
          head ∈ s.manifests.filter fun old => sameRevision row old)
        have hsymm : sameRevision old head := hsame.symm.trans (of_decide_eq_true hhead.2)
        have heq := eq_of_apart hvalid.revisions (fun _ _ h => h.symm) hmem hhead.1 hsymm
        exact ⟨rest, by rw [heq]⟩
  obtain ⟨rest, hrest⟩ := hfound
  rw [getOrCreateManifest, insertOnConflict_present hmem hsame]
  simp only [List.drop_length, ne_eq, not_true_eq_false, false_and, if_false, hrest, List.map_nil,
    List.map_cons, List.nil_append]

theorem getOrCreateManifest_cases {created : Bool} (hvalid : Valid s)
    (h : getOrCreateManifest s row = .ok (s', old, created)) :
    (s' = s ∧ old ∈ s.manifests ∧ sameRevision row old ∧ created = false) ∨
      (Absent sameRevision row s.manifests ∧ Absent (sameOn Manifest.id) row s.manifests ∧
        s' = { s with manifests := s.manifests ++ [row] } ∧ old = row ∧ created = true) := by
  by_cases hpresent : ∃ old ∈ s.manifests, sameRevision row old
  · obtain ⟨other, hmem, hsame⟩ := hpresent
    rw [getOrCreateManifest_present hvalid hmem hsame] at h
    obtain ⟨rfl, rfl, rfl⟩ : s = s' ∧ other = old ∧ false = created := by
      simpa only [Except.ok.injEq, Prod.mk.injEq] using h
    exact .inl ⟨rfl, hmem, hsame, rfl⟩
  · have habsent : Absent sameRevision row s.manifests :=
      fun other hmem hsame => hpresent ⟨other, hmem, hsame⟩
    rw [getOrCreateManifest] at h
    cases hinsert : insertOnConflict sameRevision (sameOn Manifest.id) (keep row) row
        s.manifests with
    | none => rw [hinsert] at h; cases h
    | some manifests =>
        rcases insertOnConflict_eq_some.mp hinsert with ⟨hconflict, -⟩ | ⟨-, hids, rfl⟩
        · exact absurd hconflict hpresent
        · rw [hinsert] at h
          simp only [List.drop_left, ne_eq, List.cons_ne_nil, not_false_eq_true, true_and,
            List.map_cons, List.map_nil, List.cons_append] at h
          split at h
          · cases h
          · obtain ⟨rfl, rfl, rfl⟩ : { s with manifests := s.manifests ++ [row] } = s' ∧
                row = old ∧ true = created := by
              simpa only [Except.ok.injEq, Prod.mk.injEq] using h
            exact .inr ⟨habsent, hids, rfl, rfl, rfl⟩

abbrev Records (runtime : Runtime) (request : Request) (manifest : Manifest) : Prop :=
  sameRevision (manifestRow runtime request) manifest

theorem project_eq_ok (hvalid : Valid s) (h : project runtime s request = (s', .ok r)) :
    r.inputRevisionHash = inputRevisionHash runtime request ∧
      r.contentHash = contentHash runtime request ∧
      r.markdown = renderMarkdown runtime request ∧
      ∃ manifest ∈ s'.manifests, Records runtime request manifest ∧
        manifest.id = r.projectionId ∧ manifest.contentHash = contentHash runtime request := by
  rw [project] at h
  cases hmanifest : getOrCreateManifest s (manifestRow runtime request) with
  | error failure =>
      rw [hmanifest] at h
      cases h
  | ok answer =>
      obtain ⟨written, manifest, created⟩ := answer
      rw [hmanifest] at h
      simp only at h
      split at h
      · cases h
      · rename_i hhash
        obtain ⟨rfl, rfl⟩ : written = s' ∧ _ = r := by
          simpa only [Prod.mk.injEq, Except.ok.injEq] using h
        refine ⟨rfl, rfl, rfl, manifest, ?_, ?_, rfl, not_not.mp hhash⟩
        · rcases getOrCreateManifest_cases hvalid hmanifest with
            ⟨rfl, hmem, -, -⟩ | ⟨-, -, rfl, rfl, -⟩
          · exact hmem
          · exact List.mem_append_right _ (List.mem_singleton_self _)
        · rcases getOrCreateManifest_cases hvalid hmanifest with
            ⟨-, -, hsame, -⟩ | ⟨-, -, -, rfl, -⟩
          · exact hsame
          · rfl

theorem project_present (hvalid : Valid s) (hmem : old ∈ s.manifests)
    (hsame : Records runtime request old) :
    project runtime s request = (s,
      if old.contentHash ≠ contentHash runtime request then .error .conflict
      else .ok
        { projectionId := old.id
          inputRevisionHash := inputRevisionHash runtime request
          contentHash := contentHash runtime request
          markdown := renderMarkdown runtime request
          artifactRef := old.artifactRef
          created := false }) := by
  rw [project, getOrCreateManifest_present hvalid hmem hsame]
  simp only
  split
  · rfl
  · rfl

theorem valid_insert {manifests : List Manifest} (hvalid : Valid s)
    (h : insertOnConflict sameRevision (sameOn Manifest.id) (keep row) row s.manifests =
      some manifests) :
    Valid { s with manifests := manifests } ∧ ∀ old ∈ s.manifests, old ∈ manifests := by
  rcases insertOnConflict_keep (fun _ => rfl) h with rfl | ⟨hrevision, hid, rfl⟩
  · exact ⟨hvalid, fun _ hmem => hmem⟩
  · refine ⟨⟨apart_append hvalid.ids ?_, apart_append hvalid.revisions ?_⟩,
      fun _ hmem => List.mem_append_left _ hmem⟩
    · exact fun old hmem hclash => hid old hmem hclash.symm
    · exact fun old hmem hclash => hrevision old hmem hclash.symm

theorem write_keeps (hvalid : Valid s) (h : Write runtime s s') :
    Valid s' ∧ ∀ old ∈ s.manifests, old ∈ s'.manifests := by
  cases h with
  | project request =>
      have hsame : Valid s ∧ ∀ old ∈ s.manifests, old ∈ s.manifests := ⟨hvalid, fun _ hmem => hmem⟩
      rw [project]
      cases hmanifest : getOrCreateManifest s (manifestRow runtime request) with
      | error failure => exact hsame
      | ok answer =>
          obtain ⟨written, manifest, created⟩ := answer
          have hwritten : Valid written ∧ ∀ old ∈ s.manifests, old ∈ written.manifests := by
            rcases getOrCreateManifest_cases hvalid hmanifest with
              ⟨rfl, -⟩ | ⟨hrevision, hid, rfl, -⟩
            · exact hsame
            · have hinsert : insertOnConflict sameRevision (sameOn Manifest.id)
                  (keep (manifestRow runtime request)) (manifestRow runtime request) s.manifests =
                  some (s.manifests ++ [manifestRow runtime request]) :=
                insertOnConflict_eq_some.mpr (.inr ⟨hrevision, hid, rfl⟩)
              exact valid_insert hvalid hinsert
          simp only
          split
          · exact hwritten
          · exact hwritten
  | insert row manifests hinsert => exact valid_insert hvalid hinsert
  | snapshots snapshots => exact ⟨⟨hvalid.ids, hvalid.revisions⟩, fun _ hmem => hmem⟩

theorem later_keeps (hvalid : Valid s) (h : Later runtime s t) :
    Valid t ∧ ∀ old ∈ s.manifests, old ∈ t.manifests := by
  induction h with
  | refl => exact ⟨hvalid, fun _ hmem => hmem⟩
  | tail _ hwrite ih =>
      obtain ⟨hvalid', hkept⟩ := write_keeps ih.1 hwrite
      exact ⟨hvalid', fun old hmem => hkept old (ih.2 old hmem)⟩

theorem repeats_iff (hvalid : Valid s) (hfirst : project runtime s first = (s', .ok r))
    (hlater : Later runtime s' t) (hsame : SameInput first again) :
    Repeats runtime t again r ↔
      inputRevisionHash runtime again = inputRevisionHash runtime first ∧
        contentHash runtime again = contentHash runtime first := by
  have hwritten : Valid s' := by
    have hwrite : Write runtime s (project runtime s first).1 := .project s first
    rw [hfirst] at hwrite
    exact (write_keeps hvalid hwrite).1
  obtain ⟨hvalid', hkept⟩ := later_keeps hwritten hlater
  obtain ⟨-, -, -, manifest, hmanifest, hrecords, hid, hhash⟩ := project_eq_ok hvalid hfirst
  have hmem := hkept manifest hmanifest
  constructor
  · rintro ⟨r', hagain, hprojection, -⟩
    obtain ⟨-, -, -, other, hother, hrecords', hid', hhash'⟩ := project_eq_ok hvalid' hagain
    obtain rfl : manifest = other :=
      eq_of_apart hvalid'.ids (fun _ _ h => h.symm) hmem hother
        (hid.trans (hprojection.symm.trans hid'.symm))
    have hrevision : sameRevision (manifestRow runtime again) (manifestRow runtime first) :=
      hrecords'.trans hrecords.symm
    simp only [sameRevision, Prod.mk.injEq] at hrevision
    exact ⟨hrevision.2.2.2, hhash'.symm.trans hhash⟩
  · rintro ⟨hinput, hcontent⟩
    have hrecords' : Records runtime again manifest := by
      refine Eq.trans ?_ hrecords
      show (again.projectionType, again.scopeType.text, again.scopeId,
        inputRevisionHash runtime again) = (first.projectionType, first.scopeType.text,
          first.scopeId, inputRevisionHash runtime first)
      rw [hsame.projectionType, hsame.scopeType, hsame.scopeId, hinput]
    have hproject := project_present hvalid' hmem hrecords'
    rw [if_neg (not_not.mpr (hhash.trans hcontent.symm))] at hproject
    exact ⟨_, hproject, hid, rfl⟩

/-- Every projection returns a document with its hash and with the evidence of its entries. A
projection that is asked for again, of the same entries in any order and at any later time,
returns the manifest of the first one, hash collisions apart, exactly where the entries of one
subject and version come in one order and the time and the generator are the same. -/
theorem project_again_iff (runtime : Runtime) (s s' : Store) (first : Request) (r : Result)
    (hvalid : Valid s) (hfirst : project runtime s first = (s', .ok r)) :
    (r.contentHash = runtime.sha256 r.markdown ∧ Indexes runtime first r.markdown) ∧
      ∀ t again, Later runtime s' t → SameInput first again →
        (Repeats runtime t again r ∧ ¬ Collides runtime first again ↔
          TiesInOrder first again ∧ again.logicalGeneratedAt = first.logicalGeneratedAt ∧
            again.generatorRevision = first.generatorRevision) := by
  constructor
  · obtain ⟨-, hcontent, hmarkdown, -⟩ := project_eq_ok hvalid hfirst
    rw [hcontent, hmarkdown]
    exact ⟨rfl, indexes_renderMarkdown first⟩
  · intro t again hlater hsame
    rw [repeats_iff hvalid hfirst hlater hsame]
    constructor
    · rintro ⟨⟨hinput, hcontent⟩, hcollides⟩
      have hcanonical : canonical again = canonical first := by
        by_contra hne
        exact hcollides (.inl ⟨hne, hinput⟩)
      have hmarkdown : renderMarkdown runtime again = renderMarkdown runtime first := by
        by_contra hne
        exact hcollides (.inr ⟨hne, hcontent⟩)
      exact ⟨(canonical_eq_iff hsame).mp hcanonical,
        (renderMarkdown_eq_iff hsame hcanonical).mp hmarkdown⟩
    · rintro ⟨hties, hdocument⟩
      have hcanonical := (canonical_eq_iff hsame).mpr hties
      have hmarkdown : renderMarkdown runtime again = renderMarkdown runtime first :=
        (renderMarkdown_eq_iff hsame hcanonical).mpr hdocument
      refine ⟨⟨?_, ?_⟩, ?_⟩
      · rw [inputRevisionHash, inputRevisionHash, hcanonical]
      · rw [contentHash, contentHash, hmarkdown]
      · rintro (⟨hne, -⟩ | ⟨hne, -⟩)
        · exact hne hcanonical
        · exact hne hmarkdown

section Sample

def emptyStore : Store := ⟨[], []⟩

theorem valid_emptyStore : Valid emptyStore := ⟨List.Pairwise.nil, List.Pairwise.nil⟩

def sampleRequest (time : DateTime) : Request where
  projectionType := "t"
  scopeType := .group
  scopeId := "g"
  topologySnapshotId := none
  policyRevision := "p"
  generatorRevision := "r"
  logicalGeneratedAt := time
  artifactRef := "a"
  entries := []
  metadata := []

theorem second_lt (second : Fin 60) : (second : ℕ) * 1000000 < wallBound := by
  simp only [wallBound, dayLength]
  omega

theorem utc_lt : ∀ o ∈ some (0 : ℤ), o.natAbs < dayLength := by
  rintro o ⟨⟩
  decide

def sampleTime (second : Fin 60) : DateTime where
  wall := second * 1000000
  offset := some 0
  wall_lt := second_lt second
  offset_lt := utc_lt

theorem sameInput_sample (first again : DateTime) :
    SameInput (sampleRequest first) (sampleRequest again) :=
  ⟨rfl, rfl, rfl, rfl, rfl, .refl _⟩

theorem project_emptyStore (runtime : Runtime) (time : DateTime) :
    ∃ s r, project runtime emptyStore (sampleRequest time) = (s, .ok r) := by
  let row := manifestRow runtime (sampleRequest time)
  have hmanifest : getOrCreateManifest emptyStore row = .ok (⟨[], [row]⟩, row, true) := rfl
  rw [project, hmanifest]
  exact ⟨_, _, if_neg (not_not.mpr rfl)⟩

theorem project_again_sample : ∃ s r,
    project sampleRuntime emptyStore (sampleRequest (sampleTime 0)) = (s, .ok r) ∧
      Repeats sampleRuntime s (sampleRequest (sampleTime 0)) r := by
  obtain ⟨s, r, hfirst⟩ := project_emptyStore sampleRuntime (sampleTime 0)
  obtain ⟨-, hagain⟩ := project_again_iff sampleRuntime emptyStore s _ r valid_emptyStore hfirst
  have hsame := sameInput_sample (sampleTime 0) (sampleTime 0)
  exact ⟨s, r, hfirst, ((hagain s _ .refl hsame).mpr ⟨fun _ => rfl, rfl, rfl⟩).1⟩

theorem inputRevisionHash_sample (time : DateTime) :
    inputRevisionHash sampleRuntime (sampleRequest time) =
      "7d2a9b0f19a826bbcd6fd1b91ba1416f8fed832e439f4e57d18787d6827203a3" := by
  have hcanonical : canonical (sampleRequest time) = .obj [("entries", .arr []),
      ("policy_revision", .str "p"), ("projection_type", .str "t"), ("scope_id", .str "g"),
      ("scope_type", .str "group"), ("topology_snapshot_id", .null)] := rfl
  rw [inputRevisionHash, hcanonical]
  decide +kernel

theorem projectionId_sample (time : DateTime) :
    projectionId sampleRuntime (sampleRequest time) = "kp_96b541df85d1534e8f4ea986c63a7028" := by
  have hid : shortId sampleRuntime "kp_" 32 ("t" ++ nul ++ "group" ++ nul ++ "g" ++ nul ++
      "7d2a9b0f19a826bbcd6fd1b91ba1416f8fed832e439f4e57d18787d6827203a3") =
      "kp_96b541df85d1534e8f4ea986c63a7028" := by decide +kernel
  rw [projectionId, inputRevisionHash_sample]
  exact hid

theorem renderMarkdown_sample (time : DateTime) :
    renderMarkdown sampleRuntime (sampleRequest time) =
      "---\nprojection_id: \"kp_96b541df85d1534e8f4ea986c63a7028\"\nprojection_type: \"t\"\n" ++
        "scope: \"group:g\"\ntopology_snapshot_id: null\ninput_revision_hash: " ++
        "\"7d2a9b0f19a826bbcd6fd1b91ba1416f8fed832e439f4e57d18787d6827203a3\"\n" ++
        ("generated_at: " ++ quote (isoformat time) ++ "\n" ++
          ("generator_revision: " ++ quote "r")) ++ "\n" ++ "evidence_index: []" ++ "\n---\n" ++
        "\n# t\n" := by
  have hopening : "\n".intercalate (openingLines sampleRuntime (sampleRequest time)) ++ "\n" =
      "---\nprojection_id: \"kp_96b541df85d1534e8f4ea986c63a7028\"\nprojection_type: \"t\"\n" ++
        "scope: \"group:g\"\ntopology_snapshot_id: null\ninput_revision_hash: " ++
        "\"7d2a9b0f19a826bbcd6fd1b91ba1416f8fed832e439f4e57d18787d6827203a3\"\n" := by
    have hlines : openingLines sampleRuntime (sampleRequest time) = "---" :: [
        ("projection_id", .str (projectionId sampleRuntime (sampleRequest time))),
        ("projection_type", .str "t"), ("scope", .str ("group" ++ ":" ++ "g")),
        ("topology_snapshot_id", .null),
        ("input_revision_hash", .str (inputRevisionHash sampleRuntime (sampleRequest time)))].map
          (frontmatterLine sampleRuntime) := rfl
    rw [hlines, projectionId_sample, inputRevisionHash_sample]
    decide +kernel
  have hevidence : frontmatterLine sampleRuntime
      ("evidence_index", .arr ((evidenceRefs (sampleRequest time)).map Json.str)) =
        "evidence_index: []" := by
    have hnone : evidenceRefs (sampleRequest time) = [] := List.mergeSort_nil
    rw [hnone]
    decide +kernel
  have hbody : body sampleRuntime (sampleRequest time) = "\n# t\n" := by
    have hnone : canonicalEntries (sampleRequest time) = [] := rfl
    rw [body, hnone]
    show rstrip ("\n".intercalate ["", "# " ++ "t", ""]) ++ "\n" = "\n# t\n"
    decide +kernel
  rw [renderMarkdown_eq, frontmatter_text, hopening, hevidence, hbody]
  rfl

/-- A second later the same projection raises. -/
theorem project_raises_later : ∃ s r,
    project sampleRuntime emptyStore (sampleRequest (sampleTime 0)) = (s, .ok r) ∧
      SameInput (sampleRequest (sampleTime 0)) (sampleRequest (sampleTime 1)) ∧
      (project sampleRuntime s (sampleRequest (sampleTime 1))).2 = .error .conflict := by
  have hhash : contentHash sampleRuntime (sampleRequest (sampleTime 0)) ≠
      contentHash sampleRuntime (sampleRequest (sampleTime 1)) := by
    rw [contentHash, contentHash, renderMarkdown_sample, renderMarkdown_sample, sampleRuntime_eq]
    decide +kernel
  obtain ⟨s, r, hfirst⟩ := project_emptyStore sampleRuntime (sampleTime 0)
  have hsame := sameInput_sample (sampleTime 0) (sampleTime 1)
  refine ⟨s, r, hfirst, hsame, ?_⟩
  obtain ⟨-, -, -, manifest, hmem, hrecords, -, hcontent⟩ := project_eq_ok valid_emptyStore hfirst
  have hrevision : Records sampleRuntime (sampleRequest (sampleTime 1)) manifest := by
    refine Eq.trans ?_ hrecords
    show ("t", "group", "g", inputRevisionHash sampleRuntime (sampleRequest (sampleTime 1))) =
      ("t", "group", "g", inputRevisionHash sampleRuntime (sampleRequest (sampleTime 0)))
    rw [inputRevisionHash_sample, inputRevisionHash_sample]
  have hvalid : Valid s := by
    have hwrite : Write sampleRuntime emptyStore
        (project sampleRuntime emptyStore (sampleRequest (sampleTime 0))).1 := .project _ _
    rw [hfirst] at hwrite
    exact (write_keeps valid_emptyStore hwrite).1
  rw [project_present hvalid hmem hrevision, hcontent]
  exact if_pos hhash

end Sample

end MindscapeLocalCore.KnowledgeProjection.RepeatedProjections
