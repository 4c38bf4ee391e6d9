import MindscapeLocalCore.KnowledgeProjection.SynthesisStore
import MindscapeLocalCore.Library.Trace

/-!
Runs of commits and review decisions over the tables of group synthesis, and what every run
keeps: a receipt has its memory items, and an item that only one receipt lists stands as that
receipt does.
-/

namespace MindscapeLocalCore.KnowledgeProjection.SynthesisRuns

open Library GroupSynthesis SynthesisStore

variable (runtime : Runtime)

inductive Event where
  | commit (handoff : Handoff)
  | decide (command : ReviewCommand) (allowed : Bool)
deriving DecidableEq

def next (s : Store) : Event → Store
  | .commit handoff => ((commit runtime s handoff (plan runtime handoff)).map Prod.fst).getD s
  | .decide command allowed => ((serviceDecide runtime s command allowed).map Prod.fst).getD s

structure Initial (s : Store) : Prop where
  receipts : s.receipts = []
  reviews : s.reviews = []
  items : s.items = []
  versions : s.versions = []
  links : s.links = []
  edges : s.edges = []

def run (start : Store) (events : List Event) : Store :=
  Trace.stateAfter (next runtime) start events

/-! ### What a call writes -/

structure Created (s s' : Store) (handoff : Handoff) (p : Plan) : Prop where
  receipts : s'.receipts = s.receipts ++ [receiptRow handoff p]
  newId : ∀ old ∈ s.receipts, old.id ≠ p.receiptId
  reviews : s'.reviews = s.reviews
  items : UniqueInsert.insertAll (sameOn MemoryItem.id) never keep
    (p.candidateRows.map (itemRow handoff)) s.items = some s'.items
  versions : UniqueInsert.insertAll (sameOn MemoryVersion.id) sameItemVersion keep
    (p.candidateRows.map (versionRow runtime handoff s.versions)) s.versions = some s'.versions
  links : UniqueInsert.insertAll sameLink (sameOn EvidenceLink.id) keep
    (linkRows runtime p) s.links = some s'.links
  edges : UniqueInsert.insertAll (sameOn MemoryEdge.id) never keep
    (edgeRows runtime handoff p) s.edges = some s'.edges

def withStatus (status : ReceiptStatus) (receipt : Receipt) : Receipt :=
  { receipt with status := status }

structure Decided (s s' : Store) (synthesis : Receipt) (command : ReviewCommand) : Prop where
  receipts : s'.receipts =
    Table.amend Receipt.id synthesis.id (withStatus command.decision.target) s.receipts
  reviews : s'.reviews = s.reviews ++ [reviewRow runtime command]
  items : s'.items = if command.decision = .requestChanges then s.items else
    s.items.map (reviewItem synthesis.groupId synthesis.candidateMemoryIds command.decision)
  versions : s'.versions = s.versions ∨ ∃ reviewed : List MemoryItem,
    UniqueInsert.insertAll (sameOn MemoryVersion.id) sameItemVersion keep
      (reviewed.map (reviewVersion runtime command s.versions)) s.versions = some s'.versions
  links : s'.links = s.links
  edges : s'.edges = s.edges

variable {runtime} {s s' : Store} {handoff : Handoff} {p : Plan} {command : ReviewCommand}

theorem commit_cases {receipt : Receipt} {created : Bool}
    (h : commit runtime s handoff p = some (s', receipt, created)) :
    (∃ manifests, s' = { s with manifests := manifests }) ∨ Created runtime s s' handoff p := by
  rw [commit] at h
  split at h
  · obtain ⟨manifests, -, hrecord⟩ := Option.bind_eq_some_iff.mp h
    rw [recordReceipt] at hrecord
    split at hrecord
    · obtain ⟨rfl, -⟩ := Prod.mk.inj (Option.some.inj hrecord)
      exact .inl ⟨manifests, rfl⟩
    · simp only [Option.bind_eq_bind, Option.bind_eq_some_iff] at hrecord
      obtain ⟨receipts, hreceipts, -, -, written, hwrite, hs⟩ := hrecord
      obtain ⟨rfl, -⟩ := Prod.mk.inj (Option.some.inj hs)
      simp only [writeCandidates, Option.bind_eq_bind, Option.bind_eq_some_iff] at hwrite
      obtain ⟨items, hitems, versions, hversions, links, hlinks, edges, hedges, hwritten⟩ := hwrite
      obtain rfl := Option.some.inj hwritten
      obtain ⟨hnew, rfl⟩ := UniqueInsert.insertRow_eq_some.mp hreceipts
      exact .inr
        { receipts := rfl
          newId := fun old hold hid => hnew old hold hid.symm
          reviews := rfl
          items := hitems
          versions := hversions
          links := hlinks
          edges := hedges }
  · cases h

theorem reviewMemories_eq_some {synthesis : Receipt}
    (h : reviewMemories runtime s synthesis command = some s') :
    ∃ items versions, s' = { s with
        items := items
        versions := versions } ∧
      (items = if command.decision = .requestChanges then s.items else
        s.items.map (reviewItem synthesis.groupId synthesis.candidateMemoryIds command.decision)) ∧
      (versions = s.versions ∨ ∃ reviewed : List MemoryItem,
        UniqueInsert.insertAll (sameOn MemoryVersion.id) sameItemVersion keep
          (reviewed.map (reviewVersion runtime command s.versions)) s.versions = some versions) := by
  rw [reviewMemories] at h
  split at h
  · rename_i hnone
    obtain rfl := Option.some.inj h
    refine ⟨s.items, s.versions, rfl, ?_, .inl rfl⟩
    split
    · rfl
    · rename_i hdecision
      rw [hnone.resolve_left hdecision]
      have hself : ∀ item, reviewItem synthesis.groupId [] command.decision item = item :=
        fun item => if_neg fun hmem => List.not_mem_nil hmem.1
      rw [List.map_congr_left fun item _ => hself item, List.map_id']
  · rename_i hsome
    simp only [Option.bind_eq_bind, Option.bind_eq_some_iff] at h
    obtain ⟨versions, hversions, hs⟩ := h
    obtain rfl := Option.some.inj hs
    refine ⟨_, versions, rfl, ?_, .inr ⟨_, hversions⟩⟩
    rw [if_neg fun hdecision => hsome (.inl hdecision)]

theorem decide_cases {review : ReviewReceipt} {created : Bool}
    (h : decide runtime s command = some (s', review, created)) :
    ∃ synthesis, Table.lookup Receipt.id command.synthesisReceiptId s.receipts = some synthesis ∧
      (findReview runtime s.reviews command = some review ∧ s' = s ∧ created = false ∨
        ¬ synthesis.status.Terminal ∧ created = true ∧ Decided runtime s s' synthesis command) := by
  rw [SynthesisStore.decide] at h
  split at h
  · cases h
  · rename_i synthesis hsynthesis
    refine ⟨synthesis, hsynthesis, ?_⟩
    split at h
    · rename_i existing hexisting
      simp only [Option.some.injEq, Prod.mk.injEq] at h
      obtain ⟨rfl, rfl, rfl⟩ := h
      exact .inl ⟨hexisting, rfl, rfl⟩
    · split at h
      · cases h
      · rename_i hopen
        simp only [Option.bind_eq_bind, Option.bind_eq_some_iff] at h
        obtain ⟨reviews, hreviews, between, hmemories, hs⟩ := h
        obtain ⟨items, versions, rfl, hitems, hversions⟩ := reviewMemories_eq_some hmemories
        obtain ⟨-, rfl⟩ := UniqueInsert.insertRow_eq_some.mp hreviews
        simp only [Option.pure_def, Option.some.injEq, Prod.mk.injEq] at hs
        obtain ⟨rfl, -, rfl⟩ := hs
        exact .inr ⟨hopen, rfl,
          { receipts := rfl
            reviews := rfl
            items := hitems
            versions := hversions
            links := rfl
            edges := rfl }⟩

variable (runtime) in
inductive Wrote (s s' : Store) : Event → Prop
  | nothing {event : Event} (manifests : List Manifest) (h : s' = { s with manifests := manifests }) :
      Wrote s s' event
  | created {handoff : Handoff} (h : Created runtime s s' handoff (plan runtime handoff)) :
      Wrote s s' (.commit handoff)
  | decided {synthesis : Receipt} {command : ReviewCommand} {allowed : Bool}
      (hfound : Table.lookup Receipt.id command.synthesisReceiptId s.receipts = some synthesis)
      (hopen : ¬ synthesis.status.Terminal) (hreturned : ∃ review,
        serviceDecide runtime s command allowed = some (s', review, true))
      (h : Decided runtime s s' synthesis command) : Wrote s s' (.decide command allowed)

theorem wrote_next (s : Store) (event : Event) :
    Wrote runtime s (next runtime s event) event := by
  cases event with
  | commit handoff =>
      rw [next]
      cases hcommit : commit runtime s handoff (plan runtime handoff) with
      | none => exact .nothing s.manifests rfl
      | some result =>
          obtain ⟨s', receipt, created⟩ := result
          rcases commit_cases hcommit with ⟨manifests, hs⟩ | hcreated
          · exact .nothing manifests hs
          · exact .created hcreated
  | decide command allowed =>
      rw [next]
      cases hdecide : serviceDecide runtime s command allowed with
      | none => exact .nothing s.manifests rfl
      | some result =>
          obtain ⟨s', review, created⟩ := result
          have hdecide' := hdecide
          rw [serviceDecide] at hdecide'
          split at hdecide'
          · obtain ⟨synthesis, hfound, ⟨-, hs, -⟩ | ⟨hopen, rfl, hdecided⟩⟩ := decide_cases hdecide'
            · exact .nothing s.manifests hs
            · exact .decided hfound hopen ⟨review, hdecide⟩ hdecided
          · cases hdecide'

/-! ### What every run keeps -/

def OnlyIn (s : Store) (receiptId itemId : String) : Prop :=
  ∀ other ∈ s.receipts, itemId ∈ other.candidateMemoryIds → other.id = receiptId

def itemStatus : ReceiptStatus → String × String
  | .approved => ("active", "verified")
  | .rejected => ("archived", "rejected")
  | _ => ("candidate", "unverified")

structure Agrees (receipt : Receipt) (item : MemoryItem) : Prop where
  status : (item.lifecycleStatus, item.verificationStatus) = itemStatus receipt.status
  contextType : item.contextType = "group"
  contextId : item.contextId = receipt.groupId

structure Sound (s : Store) : Prop where
  receiptIds : (s.receipts.map Receipt.id).Nodup
  itemIds : (s.items.map MemoryItem.id).Nodup
  listed : ∀ item ∈ s.items, ∃ receipt ∈ s.receipts, item.id ∈ receipt.candidateMemoryIds
  present : ∀ receipt ∈ s.receipts, ∀ id ∈ receipt.candidateMemoryIds,
    ∃ item ∈ s.items, item.id = id
  agrees : ∀ receipt ∈ s.receipts, ∀ item ∈ s.items, item.id ∈ receipt.candidateMemoryIds →
    OnlyIn s receipt.id item.id → Agrees receipt item

theorem sound_initial (h : Initial s) : Sound s where
  receiptIds := by
    rw [h.receipts]
    exact List.nodup_nil
  itemIds := by
    rw [h.items]
    exact List.nodup_nil
  listed := by
    rw [h.items]
    exact fun item hitem => absurd hitem List.not_mem_nil
  present := by
    rw [h.receipts]
    exact fun receipt hreceipt => absurd hreceipt List.not_mem_nil
  agrees := by
    rw [h.receipts]
    exact fun receipt hreceipt => absurd hreceipt List.not_mem_nil

theorem apart_iff_nodup {α : Type} {key : α → String} {rows : List α} :
    UniqueInsert.Apart (sameOn key) rows ↔ (rows.map key).Nodup := by
  rw [UniqueInsert.Apart, List.Nodup, List.pairwise_map]
  rfl

theorem items_of_created (h : Created runtime s s' handoff p) :
    ∃ added, s'.items = s.items ++ added ∧
      ∀ item ∈ added, ∃ row ∈ p.candidateRows, itemRow handoff row = item := by
  obtain ⟨added, hitems, hadded⟩ := UniqueInsert.insertAll_keep (fun _ _ => rfl) h.items
  exact ⟨added, hitems, fun item hitem => List.mem_map.mp (hadded.subset hitem)⟩

theorem present_of_created (h : Created runtime s s' handoff p) :
    ∀ row ∈ p.candidateRows, ∃ item ∈ s'.items, item.id = row.memoryId := by
  intro row hrow
  have hpresent := UniqueInsert.present_of_insertAll h.items (fun _ _ _ => Iff.rfl)
    (fun _ _ => rfl) (itemRow handoff row) (List.mem_map_of_mem hrow)
  obtain ⟨item, hitem, hid⟩ := UniqueInsert.exists_of_not_absent hpresent
  exact ⟨item, hitem, hid.symm⟩

theorem sound_created (hs : Sound s) (h : Created runtime s s' handoff (plan runtime handoff)) :
    Sound s' := by
  obtain ⟨added, hitems, hadded⟩ := items_of_created h
  have hlisted : ∀ item ∈ added,
      item.id ∈ (receiptRow handoff (plan runtime handoff)).candidateMemoryIds := by
    intro item hitem
    obtain ⟨row, hrow, rfl⟩ := hadded item hitem
    exact List.mem_map_of_mem hrow
  have hlast : receiptRow handoff (plan runtime handoff) ∈ s'.receipts := by
    rw [h.receipts]
    exact List.mem_append_right _ (List.mem_singleton_self _)
  have hold : ∀ receipt ∈ s.receipts, receipt ∈ s'.receipts := by
    intro receipt hreceipt
    rw [h.receipts]
    exact List.mem_append_left _ hreceipt
  constructor
  · rw [h.receipts, List.map_append]
    refine List.nodup_append.mpr ⟨hs.receiptIds, List.nodup_singleton _, ?_⟩
    intro id hid other hother
    obtain ⟨receipt, hreceipt, rfl⟩ := List.mem_map.mp hid
    rw [List.mem_singleton.mp hother]
    exact h.newId receipt hreceipt
  · exact apart_iff_nodup.mp (UniqueInsert.apart_insertAll (fun _ _ => Eq.symm) (fun _ _ => rfl)
      (apart_iff_nodup.mpr hs.itemIds) h.items)
  · intro item hitem
    rw [hitems] at hitem
    rcases List.mem_append.mp hitem with hitem | hitem
    · obtain ⟨receipt, hreceipt, hid⟩ := hs.listed item hitem
      exact ⟨receipt, hold receipt hreceipt, hid⟩
    · exact ⟨_, hlast, hlisted item hitem⟩
  · intro receipt hreceipt id hid
    rw [h.receipts] at hreceipt
    rcases List.mem_append.mp hreceipt with hreceipt | hreceipt
    · obtain ⟨item, hitem, hsame⟩ := hs.present receipt hreceipt id hid
      refine ⟨item, ?_, hsame⟩
      rw [hitems]
      exact List.mem_append_left _ hitem
    · rw [List.mem_singleton.mp hreceipt] at hid
      obtain ⟨row, hrow, rfl⟩ := List.mem_map.mp hid
      exact present_of_created h row hrow
  · intro receipt hreceipt item hitem hid honly
    rw [h.receipts] at hreceipt
    rw [hitems] at hitem
    rcases List.mem_append.mp hreceipt with hreceipt | hreceipt
    · -- an item that an older receipt alone lists is not among the new ones
      have hitem' : item ∈ s.items := by
        refine (List.mem_append.mp hitem).resolve_right fun hnew => ?_
        exact h.newId receipt hreceipt (honly _ hlast (hlisted item hnew)).symm
      exact hs.agrees receipt hreceipt item hitem' hid fun other hother =>
        honly other (hold other hother)
    · obtain rfl := List.mem_singleton.mp hreceipt
      have hitem' : item ∈ added := by
        refine (List.mem_append.mp hitem).resolve_left fun hthere => ?_
        obtain ⟨other, hother, hlists⟩ := hs.listed item hthere
        exact h.newId other hother (honly other (hold other hother) hlists)
      obtain ⟨row, -, rfl⟩ := hadded item hitem'
      exact ⟨rfl, rfl, rfl⟩

theorem mem_receipts_of_decided {synthesis receipt : Receipt}
    (h : Decided runtime s s' synthesis command) :
    receipt ∈ s'.receipts ↔ ∃ old ∈ s.receipts,
      (if old.id = synthesis.id then withStatus command.decision.target old else old) = receipt := by
  rw [h.receipts, Table.amend, List.mem_map]

theorem reviewItem_id (groupId : String) (ids : List String) (decision : Decision)
    (item : MemoryItem) : (reviewItem groupId ids decision item).id = item.id := by
  rw [reviewItem]
  split
  · rfl
  · rfl

theorem mem_items_of_decided {synthesis : Receipt} {item : MemoryItem}
    (h : Decided runtime s s' synthesis command) (hitem : item ∈ s'.items) :
    ∃ old ∈ s.items, old.id = item.id ∧ item = if command.decision = .requestChanges then old
      else reviewItem synthesis.groupId synthesis.candidateMemoryIds command.decision old := by
  rw [h.items] at hitem
  split at hitem
  · rename_i hdecision
    exact ⟨item, hitem, rfl, (if_pos hdecision).symm⟩
  · rename_i hdecision
    obtain ⟨old, hold, rfl⟩ := List.mem_map.mp hitem
    exact ⟨old, hold, (reviewItem_id _ _ _ old).symm, (if_neg hdecision).symm⟩

theorem map_id_items_of_decided {synthesis : Receipt}
    (h : Decided runtime s s' synthesis command) :
    s'.items.map MemoryItem.id = s.items.map MemoryItem.id := by
  rw [h.items]
  split
  · rfl
  · rw [List.map_map]
    exact List.map_congr_left fun item _ => reviewItem_id _ _ _ item

theorem agrees_of_reviewed {synthesis : Receipt} {item : MemoryItem}
    (hagrees : Agrees synthesis item) (hid : item.id ∈ synthesis.candidateMemoryIds)
    (hopen : ¬ synthesis.status.Terminal) :
    Agrees (withStatus command.decision.target synthesis)
      (if command.decision = .requestChanges then item
        else reviewItem synthesis.groupId synthesis.candidateMemoryIds command.decision item) := by
  have hreviewed : reviewItem synthesis.groupId synthesis.candidateMemoryIds command.decision item =
      { item with
        lifecycleStatus := if command.decision = .approve then "active" else "archived"
        verificationStatus := if command.decision = .approve then "verified" else "rejected" } :=
    if_pos ⟨hid, hagrees.contextType, hagrees.contextId⟩
  rw [hreviewed]
  cases hdecision : command.decision with
  | approve => exact ⟨rfl, hagrees.contextType, hagrees.contextId⟩
  | reject => exact ⟨rfl, hagrees.contextType, hagrees.contextId⟩
  | requestChanges =>
      refine ⟨?_, hagrees.contextType, hagrees.contextId⟩
      show (item.lifecycleStatus, item.verificationStatus) = ("candidate", "unverified")
      rw [hagrees.status]
      cases hstatus : synthesis.status with
      | candidate => rfl
      | changesRequested => rfl
      | approved => exact absurd (.inl hstatus) hopen
      | rejected => exact absurd (.inr hstatus) hopen

theorem sound_decided {synthesis : Receipt} (hs : Sound s)
    (hfound : Table.lookup Receipt.id command.synthesisReceiptId s.receipts = some synthesis)
    (hopen : ¬ synthesis.status.Terminal) (h : Decided runtime s s' synthesis command) :
    Sound s' := by
  have hsynthesis : synthesis ∈ s.receipts := Table.mem_of_lookup hfound
  have hkept : ∀ old : Receipt,
      (if old.id = synthesis.id then withStatus command.decision.target old else old).id = old.id ∧
      (if old.id = synthesis.id then withStatus command.decision.target old
        else old).candidateMemoryIds = old.candidateMemoryIds := by
    intro old
    split
    · exact ⟨rfl, rfl⟩
    · exact ⟨rfl, rfl⟩
  constructor
  · have hids : ∀ receipt : Receipt, receipt.id = synthesis.id →
        (withStatus command.decision.target receipt).id = synthesis.id := fun _ hid => hid
    rw [h.receipts, Table.map_key_amend _ hids]
    exact hs.receiptIds
  · rw [map_id_items_of_decided h]
    exact hs.itemIds
  · intro item hitem
    obtain ⟨old, hold, hid, -⟩ := mem_items_of_decided h hitem
    obtain ⟨receipt, hreceipt, hlists⟩ := hs.listed old hold
    refine ⟨_, (mem_receipts_of_decided h).mpr ⟨receipt, hreceipt, rfl⟩, ?_⟩
    rw [(hkept receipt).2, ← hid]
    exact hlists
  · intro receipt hreceipt id hid
    obtain ⟨old, hold, rfl⟩ := (mem_receipts_of_decided h).mp hreceipt
    rw [(hkept old).2] at hid
    obtain ⟨item, hitem, rfl⟩ := hs.present old hold id hid
    have hmem : item.id ∈ s'.items.map MemoryItem.id := by
      rw [map_id_items_of_decided h]
      exact List.mem_map_of_mem hitem
    exact List.mem_map.mp hmem
  · intro receipt hreceipt item hitem hid honly
    obtain ⟨old, hold, rfl⟩ := (mem_receipts_of_decided h).mp hreceipt
    obtain ⟨olditem, holditem, hsame, rfl⟩ := mem_items_of_decided h hitem
    rw [← hsame, (hkept old).2] at hid
    rw [← hsame, (hkept old).1] at honly
    have honly' : OnlyIn s old.id olditem.id := by
      intro other hother hlists
      have hother' := honly _ ((mem_receipts_of_decided h).mpr ⟨other, hother, rfl⟩)
      rw [(hkept other).1, (hkept other).2] at hother'
      exact hother' hlists
    have hagrees := hs.agrees old hold olditem holditem hid honly'
    by_cases hmine : old.id = synthesis.id
    · obtain rfl : old = synthesis :=
        List.inj_on_of_nodup_map hs.receiptIds hold hsynthesis hmine
      rw [if_pos rfl]
      exact agrees_of_reviewed hagrees hid hopen
    · rw [if_neg hmine]
      have hself : reviewItem synthesis.groupId synthesis.candidateMemoryIds command.decision
          olditem = olditem :=
        if_neg fun hreviewed => hmine (honly' synthesis hsynthesis hreviewed.1).symm
      rw [hself, ite_self]
      exact hagrees

theorem sound_next {event : Event} (hs : Sound s) (h : Wrote runtime s s' event) :
    Sound s' := by
  cases h with
  | nothing manifests h =>
      rw [h]
      exact ⟨hs.receiptIds, hs.itemIds, hs.listed, hs.present, hs.agrees⟩
  | created h => exact sound_created hs h
  | decided hfound hopen _ h => exact sound_decided hs hfound hopen h

theorem sound_run (hinitial : Initial s) (events : List Event) : Sound (run runtime s events) := by
  induction events using List.reverseRecOn with
  | nil => exact sound_initial hinitial
  | append_singleton events event ih =>
      rw [run, Trace.stateAfter_append_singleton]
      exact sound_next ih (wrote_next _ event)

/-! ### A run -/

theorem sortedSet_singleton (item : String) : sortedSet [item] = [item] :=
  List.mergeSort_singleton item

def rowOfSingle (runtime : Runtime) (groupId : String) (claim : AgentClaim) : CandidateRow :=
  { variant := (newVariant runtime claim).add claim
    memoryId := shortId runtime "gmem_" 32 (groupId ++ nul ++ claim.stableSubjectKey ++ nul ++
      normalizeClaim runtime claim.claim) }

def planOfSingle (runtime : Runtime) (handoff : Handoff) (claim : AgentClaim) : Plan :=
  let inputHash := hashJson runtime (.obj [("claims", .arr [claim.document]),
    ("group_id", .str handoff.groupId), ("policy_revision", .str handoff.policyRevision),
    ("run_id", .str handoff.runId), ("topology_snapshot_id", .str handoff.topologySnapshotId)])
  let row := rowOfSingle runtime handoff.groupId claim
  { inputHash := inputHash
    receiptId := shortId runtime "gsr_" 32 (handoff.runId ++ nul ++ inputHash)
    projectionId := shortId runtime "kp_" 32
      ("human_review" ++ nul ++ "group" ++ nul ++ handoff.groupId ++ nul ++ inputHash)
    projectionContentHash := runtime.sha256 (renderReviewMarkdown runtime handoff [row] [])
    candidateRows := [row]
    candidateMemoryIds := [row.memoryId]
    conflictSets := []
    evidenceRefs := claim.evidenceRefs
    reviewMarkdown := renderReviewMarkdown runtime handoff [row] [] }

theorem plan_of_single {claim : AgentClaim} {ref : String} (hclaims : handoff.claims = [claim])
    (hrefs : claim.evidenceRefs = [ref]) :
    plan runtime handoff = planOfSingle runtime handoff claim := by
  have hcanonical : canonicalClaims runtime handoff.claims = [claim] := by
    rw [hclaims]
    exact List.mergeSort_singleton claim
  have hrows : candidateRows runtime handoff.groupId [claim] =
      [rowOfSingle runtime handoff.groupId claim] := by
    have hvariants : [claim].foldl (addClaim runtime) [] =
        [(variantKey runtime claim, (newVariant runtime claim).add claim)] := rfl
    rw [candidateRows, hvariants, List.mergeSort_singleton, List.map_singleton, candidateRow]
    simp only [Variant.add, newVariant, hrefs, List.nil_append, sortedSet_singleton]
    rw [rowOfSingle, Variant.add, newVariant, hrefs]
    rfl
  have hconflicts : conflictSets [rowOfSingle runtime handoff.groupId claim] = [] := by
    have hlength : ∀ subject,
        (idsOfSubject [rowOfSingle runtime handoff.groupId claim] subject).length ≤ 1 := by
      intro subject
      rw [idsOfSubject, List.length_map]
      exact List.length_filter_le _ _
    rw [conflictSets, List.filter_eq_nil_iff.mpr]
    · rfl
    · intro subject _ hmore
      have hmore' := of_decide_eq_true hmore
      have hbound := hlength subject
      omega
  have hevidence : sortedSet ([rowOfSingle runtime handoff.groupId claim].flatMap fun row =>
      row.variant.evidenceRefs) = claim.evidenceRefs := by
    show sortedSet (([] ++ claim.evidenceRefs) ++ []) = _
    rw [List.append_nil, List.nil_append, hrefs, sortedSet_singleton]
  rw [plan, inputPayload, hcanonical]
  simp only [hrows, hconflicts, hevidence]
  rfl

def sampleHandoff (runId : String) : Handoff where
  runId := runId
  groupId := "g"
  topologySnapshotId := "t"
  policyRevision := "p"
  claims := [sampleClaim "c"]

def sampleStart : Store where
  snapshots id := if id = "t" then some "g" else none
  manifests := []
  receipts := []
  reviews := []
  items := []
  versions := []
  links := []
  edges := []

def samplePlan (runId : String) : Plan :=
  planOfSingle sampleRuntime (sampleHandoff runId) (sampleClaim "c")

def sampleCommand (runId : String) (decision : Decision) : ReviewCommand where
  synthesisReceiptId := (samplePlan runId).receiptId
  decision := decision
  actorUserId := "u"
  reason := "r"

theorem plan_sampleHandoff (runId : String) :
    plan sampleRuntime (sampleHandoff runId) = samplePlan runId := plan_of_single rfl rfl

def planWithIds (runId inputHash receiptId projectionId : String) : Plan :=
  { samplePlan runId with
    inputHash
    receiptId
    projectionId
    candidateRows := [⟨(newVariant sampleRuntime (sampleClaim "c")).add (sampleClaim "c"),
      "gmem_095a2be3226de997fae7ca220ae74053"⟩]
    candidateMemoryIds := ["gmem_095a2be3226de997fae7ca220ae74053"] }

theorem memoryId_sample : (rowOfSingle sampleRuntime "g" (sampleClaim "c")).memoryId =
    "gmem_095a2be3226de997fae7ca220ae74053" := by
  decide +kernel

theorem samplePlan_eq (runId inputHash receiptId projectionId : String)
    (hinput : (samplePlan runId).inputHash = inputHash)
    (hreceipt : shortId sampleRuntime "gsr_" 32 (runId ++ nul ++ inputHash) = receiptId)
    (hprojection : shortId sampleRuntime "kp_" 32 ("human_review" ++ nul ++ "group" ++ nul ++ "g" ++
      nul ++ inputHash) = projectionId) :
    samplePlan runId = planWithIds runId inputHash receiptId projectionId := by
  subst hinput hreceipt hprojection
  rw [planWithIds, ← memoryId_sample]
  rfl

theorem samplePlan_one : samplePlan "1" =
    planWithIds "1" "f7f42a181b35ac7bb87293ae0e1d78c0c219aca9afb06aeaa90de9578aac55a3"
      "gsr_8d9fe2d1d61f6ae0b8949d52c5bd47fc" "kp_f081ca076c3fcab7f5d7d4883fd6623a" :=
  samplePlan_eq _ _ _ _ (by decide +kernel) (by decide +kernel) (by decide +kernel)

theorem initial_sampleStart : Initial sampleStart := ⟨rfl, rfl, rfl, rfl, rfl, rfl⟩

end MindscapeLocalCore.KnowledgeProjection.SynthesisRuns
