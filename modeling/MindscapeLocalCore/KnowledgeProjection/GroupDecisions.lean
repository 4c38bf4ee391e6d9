import MindscapeLocalCore.KnowledgeProjection.SynthesisRuns

/-!
What runs that share memory items leave of each other's decisions: an active item stays so until
a receipt that lists it is rejected, versions count up without gaps, and every receipt has its
items, their evidence and the edges of its conflicts.
-/

namespace MindscapeLocalCore.KnowledgeProjection.GroupDecisions

open Library GroupSynthesis SynthesisStore SynthesisRuns

variable (runtime : Runtime)

def Active (s : Store) (id : String) : Prop :=
  ∃ item ∈ s.items, item.id = id ∧
    item.lifecycleStatus = "active" ∧ item.verificationStatus = "verified"

/-- The event is a rejection, recorded at that moment, of a receipt that lists the item. -/
def Rejects (s : Store) (id : String) (event : Event) : Prop :=
  ∃ command allowed synthesis, event = .decide command allowed ∧ command.decision = .reject ∧
    Table.lookup Receipt.id command.synthesisReceiptId s.receipts = some synthesis ∧
    id ∈ synthesis.candidateMemoryIds ∧
    ∃ s' review, serviceDecide runtime s command allowed = some (s', review, true)

/-- The version numbers of every item are `1`, `2`, … in the order of their insertion. -/
def VersionsCountUp (s : Store) : Prop :=
  ∀ id, ∃ k, (Table.select MemoryVersion.memoryItemId id s.versions).map MemoryVersion.versionNo =
    List.range' 1 k

/-- The items of a plan, their evidence links, and both directions of every edge between items
of a conflict are there. -/
structure Complete (s : Store) (p : Plan) : Prop where
  items : ∀ row ∈ p.candidateRows, ∃ item ∈ s.items, item.id = row.memoryId
  links : ∀ row ∈ p.candidateRows, ∀ ref ∈ row.variant.evidenceRefs, ∃ link ∈ s.links,
    link.memoryItemId = row.memoryId ∧ link.evidenceType = "agent_output" ∧
      link.evidenceId = ref ∧ link.linkRole = "supports"
  edges : ∀ conflict ∈ p.conflictSets, ∀ left ∈ conflict.memoryIds, ∀ right ∈ conflict.memoryIds,
    left ≠ right → ∃ edge ∈ s.edges,
      edge.fromMemoryId = left ∧ edge.toMemoryId = right ∧ edge.edgeType = "contradicts"

def handoffs (events : List Event) : List Handoff :=
  events.filterMap fun
    | .commit handoff => some handoff
    | .decide _ _ => none

def EdgeIdsDiffer (handoffs : List Handoff) : Prop :=
  ∀ a ∈ handoffs, ∀ b ∈ handoffs,
    ∀ edge ∈ edgeRows runtime a (plan runtime a), ∀ other ∈ edgeRows runtime b (plan runtime b),
      edge.id = other.id →
        edge.fromMemoryId = other.fromMemoryId ∧ edge.toMemoryId = other.toMemoryId

def ReceiptsComplete (s : Store) (handoffs : List Handoff) : Prop :=
  ∀ receipt ∈ s.receipts, ∃ handoff ∈ handoffs,
    receipt = withStatus receipt.status (receiptRow handoff (plan runtime handoff)) ∧
      Complete s (plan runtime handoff)

variable {runtime} {s s' : Store} {command : ReviewCommand}

/-! ### Versions -/

theorem foldl_max_range' (k : ℕ) : (List.range' 1 k).foldl max 0 = k := by
  induction k with
  | zero => rfl
  | succ k ih =>
      rw [List.range'_concat, List.foldl_append, ih]
      show max k (1 + 1 * k) = k + 1
      omega

theorem nextVersionNo_of_range {versions : List MemoryVersion} {id : String} {k : ℕ}
    (h : (Table.select MemoryVersion.memoryItemId id versions).map MemoryVersion.versionNo =
      List.range' 1 k) : nextVersionNo versions id = k + 1 := by
  rw [nextVersionNo, h, foldl_max_range']

structure NextVersions (versions news : List MemoryVersion) : Prop where
  numbers : ∀ row ∈ news, row.versionNo = nextVersionNo versions row.memoryItemId
  ids : ∀ row ∈ news, ∀ other ∈ news, row.memoryItemId = other.memoryItemId → row.id = other.id

theorem select_length_le_one {added : List MemoryVersion} {id : String}
    (hapart : UniqueInsert.Apart (sameOn MemoryVersion.id) added)
    (hids : ∀ row ∈ added, ∀ other ∈ added,
      row.memoryItemId = other.memoryItemId → row.id = other.id) :
    (Table.select MemoryVersion.memoryItemId id added).length ≤ 1 := by
  cases hselect : Table.select MemoryVersion.memoryItemId id added with
  | nil => exact Nat.zero_le _
  | cons first rest =>
      cases rest with
      | nil => exact Nat.le_refl _
      | cons second rest =>
          have hsublist : [first, second].Sublist added := by
            have hfilter : (Table.select MemoryVersion.memoryItemId id added).Sublist added :=
              List.filter_sublist
            rw [hselect] at hfilter
            exact ((List.nil_sublist rest).cons_cons second |>.cons_cons first).trans hfilter
          have hmem : ∀ row ∈ [first, second], row ∈ added ∧ row.memoryItemId = id := by
            intro row hrow
            refine Table.mem_select.mp ?_
            rw [hselect]
            exact (List.Sublist.cons_cons first ((List.nil_sublist rest).cons_cons second)).subset hrow
          obtain ⟨hfirst, hfirst'⟩ := hmem first List.mem_cons_self
          obtain ⟨hsecond, hsecond'⟩ := hmem second (List.mem_cons_of_mem _ List.mem_cons_self)
          have hdiffer := List.rel_of_pairwise_cons (hapart.sublist hsublist) List.mem_cons_self
          exact absurd (hids first hfirst second hsecond (hfirst'.trans hsecond'.symm)) hdiffer

theorem versionsCountUp_insertAll {news : List MemoryVersion} (hcount : VersionsCountUp s)
    (hunique : UniqueInsert.Apart (sameOn MemoryVersion.id) s.versions)
    (hnext : NextVersions s.versions news)
    (h : UniqueInsert.insertAll (sameOn MemoryVersion.id) sameItemVersion keep news s.versions =
      some s'.versions) : VersionsCountUp s' := by
  have hapart := UniqueInsert.apart_insertAll (fun _ _ => Eq.symm) (fun _ _ => rfl) hunique h
  obtain ⟨added, hversions, hadded⟩ := UniqueInsert.insertAll_keep (fun _ _ => rfl) h
  rw [hversions] at hapart
  intro id
  obtain ⟨k, hk⟩ := hcount id
  have hone : (Table.select MemoryVersion.memoryItemId id added).length ≤ 1 :=
    select_length_le_one (List.pairwise_append.mp hapart).2.1
      fun row hrow other hother =>
        hnext.ids row (hadded.subset hrow) other (hadded.subset hother)
  rw [hversions, Table.select, List.filter_append, List.map_append]
  cases hselect : Table.select MemoryVersion.memoryItemId id added with
  | nil =>
      refine ⟨k, ?_⟩
      rw [← Table.select, ← Table.select, hselect, hk]
      exact List.append_nil _
  | cons row rest =>
      have hnil : rest = [] := by
        rw [hselect, List.length_cons] at hone
        exact List.eq_nil_of_length_eq_zero (by omega)
      obtain ⟨hrow, hid⟩ : row ∈ added ∧ row.memoryItemId = id := by
        refine Table.mem_select.mp ?_
        rw [hselect]
        exact List.mem_cons_self
      have hnumber := hnext.numbers row (hadded.subset hrow)
      rw [hid, nextVersionNo_of_range hk] at hnumber
      refine ⟨k + 1, ?_⟩
      rw [← Table.select, ← Table.select, hselect, hnil, hk, List.range'_concat, List.map_singleton,
        hnumber, Nat.one_mul, Nat.add_comm k 1]

/-! ### Edges and links -/

theorem mem_pairs {left right : String} {ids : List String} (hleft : left ∈ ids)
    (hright : right ∈ ids) (hne : left ≠ right) :
    (left, right) ∈ pairs ids ∨ (right, left) ∈ pairs ids := by
  induction ids with
  | nil => cases hleft
  | cons first rest ih =>
      rw [pairs]
      rcases List.mem_cons.mp hleft with rfl | hlater
      · have hright' : right ∈ rest := (List.mem_cons.mp hright).resolve_left (Ne.symm hne)
        exact .inl (List.mem_append_left _ (List.mem_map_of_mem hright'))
      · rcases List.mem_cons.mp hright with rfl | hlater'
        · exact .inr (List.mem_append_left _ (List.mem_map_of_mem hlater))
        · rcases ih hlater hlater' with hpair | hpair
          · exact .inl (List.mem_append_right _ hpair)
          · exact .inr (List.mem_append_right _ hpair)

theorem mem_edgeRows_of_conflict {handoff : Handoff} {p : Plan} {conflict : ConflictSet}
    {left right : String} (hconflict : conflict ∈ p.conflictSets)
    (hleft : left ∈ conflict.memoryIds) (hright : right ∈ conflict.memoryIds)
    (hne : left ≠ right) :
    edgeRow runtime handoff.runId left right ∈ edgeRows runtime handoff p := by
  rw [edgeRows, List.mem_flatMap]
  refine ⟨conflict, hconflict, List.mem_flatMap.mpr ?_⟩
  rcases mem_pairs hleft hright hne with hpair | hpair
  · exact ⟨_, hpair, List.mem_cons_self⟩
  · exact ⟨_, hpair, List.mem_cons_of_mem _ (List.mem_singleton_self _)⟩

theorem edgeType_of_mem {handoff : Handoff} {p : Plan} {edge : MemoryEdge}
    (h : edge ∈ edgeRows runtime handoff p) : edge.edgeType = "contradicts" := by
  obtain ⟨conflict, -, hedge⟩ := List.mem_flatMap.mp h
  obtain ⟨pair, -, hedge⟩ := List.mem_flatMap.mp hedge
  rcases List.mem_cons.mp hedge with rfl | hedge
  · rfl
  · rw [List.mem_singleton.mp hedge]
    rfl

structure Grows (s s' : Store) : Prop where
  items : ∀ item ∈ s.items, ∃ item' ∈ s'.items, item'.id = item.id
  links : s.links ⊆ s'.links
  edges : s.edges ⊆ s'.edges

theorem complete_of_grows {p : Plan} (h : Complete s p) (hgrows : Grows s s') : Complete s' p where
  items row hrow := by
    obtain ⟨item, hitem, hid⟩ := h.items row hrow
    obtain ⟨item', hitem', hsame⟩ := hgrows.items item hitem
    exact ⟨item', hitem', hsame.trans hid⟩
  links row hrow ref href := by
    obtain ⟨link, hlink, hrest⟩ := h.links row hrow ref href
    exact ⟨link, hgrows.links hlink, hrest⟩
  edges conflict hconflict left hleft right hright hne := by
    obtain ⟨edge, hedge, hrest⟩ := h.edges conflict hconflict left hleft right hright hne
    exact ⟨edge, hgrows.edges hedge, hrest⟩

theorem subset_of_insertAll {α : Type} {arbiter others : α → α → Prop} [DecidableRel arbiter]
    [DecidableRel others] {news rows rows' : List α}
    (h : UniqueInsert.insertAll arbiter others keep news rows = some rows') :
    rows ⊆ rows' ∧ ∀ row ∈ rows', row ∈ rows ∨ row ∈ news := by
  obtain ⟨added, rfl, hadded⟩ := UniqueInsert.insertAll_keep (fun _ _ => rfl) h
  refine ⟨List.subset_append_left _ _, fun row hrow => ?_⟩
  exact (List.mem_append.mp hrow).imp_right fun hnew => hadded.subset hnew

theorem grows_created {handoff : Handoff} {p : Plan} (h : Created runtime s s' handoff p) :
    Grows s s' where
  items item hitem := ⟨item, (subset_of_insertAll h.items).1 hitem, rfl⟩
  links := (subset_of_insertAll h.links).1
  edges := (subset_of_insertAll h.edges).1

theorem grows_decided {synthesis : Receipt} (h : Decided runtime s s' synthesis command) :
    Grows s s' where
  items item hitem := by
    have hmem : item.id ∈ s'.items.map MemoryItem.id := by
      rw [map_id_items_of_decided h]
      exact List.mem_map_of_mem hitem
    exact List.mem_map.mp hmem
  links := by rw [h.links]; exact List.Subset.refl _
  edges := by rw [h.edges]; exact List.Subset.refl _

variable (runtime) in
def EdgesOf (s : Store) (handoffs : List Handoff) : Prop :=
  ∀ edge ∈ s.edges, ∃ handoff ∈ handoffs, edge ∈ edgeRows runtime handoff (plan runtime handoff)

theorem complete_created {handoff : Handoff} {committed : List Handoff}
    (hdiffer : EdgeIdsDiffer runtime committed) (hmem : handoff ∈ committed)
    (hedges : EdgesOf runtime s' committed)
    (h : Created runtime s s' handoff (plan runtime handoff)) :
    Complete s' (plan runtime handoff) where
  items := present_of_created h
  links row hrow ref href := by
    have hlink : linkRow runtime row ref ∈ linkRows runtime (plan runtime handoff) :=
      List.mem_flatMap.mpr ⟨row, hrow, List.mem_map_of_mem href⟩
    have hpresent := UniqueInsert.present_of_insertAll h.links (fun _ _ _ => Iff.rfl)
      (fun _ _ => rfl) _ hlink
    obtain ⟨link, hthere, hsame⟩ := UniqueInsert.exists_of_not_absent hpresent
    simp only [sameLink, linkRow, Prod.mk.injEq] at hsame
    exact ⟨link, hthere, hsame.1.symm, hsame.2.1.symm, hsame.2.2.1.symm, hsame.2.2.2.symm⟩
  edges conflict hconflict left hleft right hright hne := by
    have hrow : edgeRow runtime handoff.runId left right ∈
        edgeRows runtime handoff (plan runtime handoff) :=
      mem_edgeRows_of_conflict hconflict hleft hright hne
    have hpresent := UniqueInsert.present_of_insertAll h.edges (fun _ _ _ => Iff.rfl)
      (fun _ _ => rfl) _ hrow
    obtain ⟨edge, hthere, hid⟩ := UniqueInsert.exists_of_not_absent hpresent
    obtain ⟨other, hother, hedge⟩ := hedges edge hthere
    obtain ⟨hfrom, hto⟩ := hdiffer handoff hmem other hother _ hrow edge hedge hid
    exact ⟨edge, hthere, hfrom.symm, hto.symm, edgeType_of_mem hedge⟩

/-! ### Runs -/

variable (runtime) in
structure Kept (s : Store) (committed : List Handoff) : Prop where
  versionIds : UniqueInsert.Apart (sameOn MemoryVersion.id) s.versions
  versions : VersionsCountUp s
  edges : EdgesOf runtime s committed
  receipts : ReceiptsComplete runtime s committed

theorem kept_initial (h : Initial s) : Kept runtime s [] where
  versionIds := by
    rw [h.versions]
    exact List.Pairwise.nil
  versions id := by
    rw [h.versions]
    exact ⟨0, rfl⟩
  edges := by
    rw [EdgesOf, h.edges]
    exact fun edge hedge => absurd hedge List.not_mem_nil
  receipts := by
    rw [ReceiptsComplete, h.receipts]
    exact fun receipt hreceipt => absurd hreceipt List.not_mem_nil

theorem nextVersions_map {α : Type} {versions : List MemoryVersion} {version : α → MemoryVersion}
    (hnumber : ∀ a, (version a).versionNo = nextVersionNo versions (version a).memoryItemId)
    (hid : ∀ a b, (version a).memoryItemId = (version b).memoryItemId →
      (version a).id = (version b).id) (rows : List α) :
    NextVersions versions (rows.map version) where
  numbers := List.forall_mem_map.mpr fun a _ => hnumber a
  ids := List.forall_mem_map.mpr fun a _ => List.forall_mem_map.mpr fun b _ => hid a b

theorem kept_created {handoff : Handoff} {earlier : List Handoff} (hs : Kept runtime s earlier)
    (hdiffer : EdgeIdsDiffer runtime (earlier ++ [handoff]))
    (h : Created runtime s s' handoff (plan runtime handoff)) :
    Kept runtime s' (earlier ++ [handoff]) := by
  have hlast : handoff ∈ earlier ++ [handoff] :=
    List.mem_append_right _ (List.mem_singleton_self _)
  have hnext : NextVersions s.versions
      ((plan runtime handoff).candidateRows.map (versionRow runtime handoff s.versions)) := by
    refine nextVersions_map (fun _ => rfl) (fun a b hsame => ?_) _
    show shortId runtime _ _ (_ ++ a.memoryId) = shortId runtime _ _ (_ ++ b.memoryId)
    rw [show a.memoryId = b.memoryId from hsame]
  have hedges : EdgesOf runtime s' (earlier ++ [handoff]) := by
    intro edge hedge
    rcases (subset_of_insertAll h.edges).2 edge hedge with hedge | hedge
    · obtain ⟨other, hother, hrow⟩ := hs.edges edge hedge
      exact ⟨other, List.mem_append_left _ hother, hrow⟩
    · exact ⟨handoff, hlast, hedge⟩
  constructor
  · exact UniqueInsert.apart_insertAll (fun _ _ => Eq.symm) (fun _ _ => rfl) hs.versionIds h.versions
  · exact versionsCountUp_insertAll hs.versions hs.versionIds hnext h.versions
  · exact hedges
  · intro receipt hreceipt
    rw [h.receipts] at hreceipt
    rcases List.mem_append.mp hreceipt with hreceipt | hreceipt
    · obtain ⟨other, hother, hrow, hcomplete⟩ := hs.receipts receipt hreceipt
      exact ⟨other, List.mem_append_left _ hother, hrow,
        complete_of_grows hcomplete (grows_created h)⟩
    · rw [List.mem_singleton.mp hreceipt]
      exact ⟨handoff, hlast, rfl, complete_created hdiffer hlast hedges h⟩

theorem kept_decided {synthesis : Receipt} {committed : List Handoff}
    (hs : Kept runtime s committed) (h : Decided runtime s s' synthesis command) :
    Kept runtime s' committed := by
  have hversions : UniqueInsert.Apart (sameOn MemoryVersion.id) s'.versions ∧
      VersionsCountUp s' := by
    rcases h.versions with hsame | ⟨reviewed, hinsert⟩
    · rw [VersionsCountUp, hsame]
      exact ⟨hs.versionIds, hs.versions⟩
    · have hnext : NextVersions s.versions
          (reviewed.map (reviewVersion runtime command s.versions)) := by
        refine nextVersions_map (fun _ => rfl) (fun a b hsame => ?_) _
        show shortId runtime _ _ (_ ++ a.id) = shortId runtime _ _ (_ ++ b.id)
        rw [show a.id = b.id from hsame]
      exact ⟨UniqueInsert.apart_insertAll (fun _ _ => Eq.symm) (fun _ _ => rfl) hs.versionIds
        hinsert, versionsCountUp_insertAll hs.versions hs.versionIds hnext hinsert⟩
  refine ⟨hversions.1, hversions.2, ?_, ?_⟩
  · rw [EdgesOf, h.edges]
    exact hs.edges
  · intro receipt hreceipt
    obtain ⟨old, hold, rfl⟩ := (mem_receipts_of_decided h).mp hreceipt
    obtain ⟨handoff, hmem, hrow, hcomplete⟩ := hs.receipts old hold
    refine ⟨handoff, hmem, ?_, complete_of_grows hcomplete (grows_decided h)⟩
    split
    · rw [hrow]
      rfl
    · exact hrow

theorem kept_more {committed : List Handoff} (hs : Kept runtime s committed) (more : List Handoff) :
    Kept runtime s (committed ++ more) where
  versionIds := hs.versionIds
  versions := hs.versions
  edges edge hedge := by
    obtain ⟨handoff, hmem, hrow⟩ := hs.edges edge hedge
    exact ⟨handoff, List.mem_append_left _ hmem, hrow⟩
  receipts receipt hreceipt := by
    obtain ⟨handoff, hmem, hrest⟩ := hs.receipts receipt hreceipt
    exact ⟨handoff, List.mem_append_left _ hmem, hrest⟩

theorem kept_next {event : Event} {earlier : List Handoff} (hs : Kept runtime s earlier)
    (hdiffer : EdgeIdsDiffer runtime (earlier ++ handoffs [event]))
    (h : Wrote runtime s s' event) : Kept runtime s' (earlier ++ handoffs [event]) := by
  cases h with
  | nothing manifests h =>
      have hmore := kept_more hs (handoffs [event])
      rw [h]
      exact ⟨hmore.versionIds, hmore.versions, hmore.edges, fun receipt hreceipt => by
        obtain ⟨handoff, hmem, hrow, hcomplete⟩ := hmore.receipts receipt hreceipt
        exact ⟨handoff, hmem, hrow, hcomplete.items, hcomplete.links, hcomplete.edges⟩⟩
  | created h => exact kept_created hs hdiffer h
  | decided _ _ _ h => exact kept_more (kept_decided hs h) _

theorem kept_run {start : Store} (hinitial : Initial start) (events : List Event)
    (hdiffer : EdgeIdsDiffer runtime (handoffs events)) :
    Kept runtime (run runtime start events) (handoffs events) := by
  induction events using List.reverseRecOn with
  | nil => exact kept_initial hinitial
  | append_singleton events event ih =>
      have hsplit : handoffs (events ++ [event]) = handoffs events ++ handoffs [event] :=
        List.filterMap_append
      rw [hsplit] at hdiffer ⊢
      rw [run, Trace.stateAfter_append_singleton]
      refine kept_next (ih fun a ha b hb => ?_) hdiffer (wrote_next _ event)
      exact hdiffer a (List.mem_append_left _ ha) b (List.mem_append_left _ hb)

theorem active_next {id : String} {event : Event} (hactive : Active s id)
    (h : Wrote runtime s s' event) : Active s' id ∨ Rejects runtime s id event := by
  obtain ⟨item, hitem, hid, hlifecycle, hverification⟩ := hactive
  cases h with
  | nothing manifests h =>
      rw [h]
      exact .inl ⟨item, hitem, hid, hlifecycle, hverification⟩
  | created h =>
      exact .inl ⟨item, (subset_of_insertAll h.items).1 hitem, hid, hlifecycle, hverification⟩
  | @decided synthesis command allowed hfound hopen hreturned h =>
      by_cases hchanges : command.decision = .requestChanges
      · have hsame : s'.items = s.items := by rw [h.items, if_pos hchanges]
        rw [← hsame] at hitem
        exact .inl ⟨item, hitem, hid, hlifecycle, hverification⟩
      · have hitem' : reviewItem synthesis.groupId synthesis.candidateMemoryIds command.decision
            item ∈ s'.items := by
          rw [h.items, if_neg hchanges]
          exact List.mem_map_of_mem hitem
        by_cases hnamed : item.id ∈ synthesis.candidateMemoryIds ∧ item.contextType = "group" ∧
            item.contextId = synthesis.groupId
        · rw [reviewItem, if_pos hnamed] at hitem'
          by_cases happrove : command.decision = .approve
          · rw [if_pos happrove, if_pos happrove] at hitem'
            exact .inl ⟨_, hitem', hid, rfl, rfl⟩
          · have hreject : command.decision = .reject := by
              cases hdecision : command.decision with
              | approve => exact absurd hdecision happrove
              | requestChanges => exact absurd hdecision hchanges
              | reject => rfl
            obtain ⟨review, hcall⟩ := hreturned
            exact .inr ⟨command, allowed, synthesis, rfl, hreject, hfound, hid ▸ hnamed.1, s',
              review, hcall⟩
        · rw [reviewItem, if_neg hnamed] at hitem'
          exact .inl ⟨item, hitem', hid, hlifecycle, hverification⟩

/-- In a run of commits and reviews an active item stays active until a receipt that lists it,
older or newer, is rejected; versions count up, and every receipt is complete. -/
theorem decisions_stay (runtime : Runtime) {start : Store} (hinitial : Initial start)
    (events : List Event) (hdiffer : EdgeIdsDiffer runtime (handoffs events)) :
    (∀ id later, Active (run runtime start events) id →
      Active (run runtime start (events ++ later)) id ∨
        ∃ before event rest, later = before ++ event :: rest ∧
          Rejects runtime (run runtime start (events ++ before)) id event) ∧
      ((run runtime start events).items.map MemoryItem.id).Nodup ∧
      VersionsCountUp (run runtime start events) ∧
      ReceiptsComplete runtime (run runtime start events) (handoffs events) := by
  have hkept := kept_run hinitial events hdiffer
  refine ⟨fun id later hactive => ?_, (sound_run hinitial events).itemIds, hkept.versions,
    hkept.receipts⟩
  by_cases hend : Active (run runtime start (events ++ later)) id
  · exact .inl hend
  · rw [run, Trace.stateAfter_append] at hend
    obtain ⟨before, event, rest, rfl, hbefore, hlost⟩ :=
      Trace.exists_event_of_lost (fun s => Active s id) hactive hend
    refine .inr ⟨before, event, rest, rfl, ?_⟩
    rw [run, Trace.stateAfter_append]
    exact (active_next hbefore (wrote_next _ event)).resolve_left hlost

section Sample

instance (s : Store) (id : String) : Decidable (Active s id) :=
  inferInstanceAs (Decidable (∃ item ∈ s.items, _ ∧ _ ∧ _))

def approvedSecond : List Event :=
  [.commit (sampleHandoff "1"), .commit (sampleHandoff "2"),
    .decide (sampleCommand "2" .approve) true]

def sharedItem : String := (rowOfSingle sampleRuntime "g" (sampleClaim "c")).memoryId

/-- Rejecting the older receipt archives the item that the newer one made active. -/
theorem older_receipt_undoes :
    Active (run sampleRuntime sampleStart approvedSecond) sharedItem ∧
      ¬ Active (run sampleRuntime sampleStart
        (approvedSecond ++ [.decide (sampleCommand "1" .reject) true])) sharedItem := by
  have hplan := plan_sampleHandoff
  have htwo := samplePlan_eq "2"
    "cb79253e72b20bdcc1a19956796d5b37ce88dde0256d9e65e897daf8c5fa6956"
    "gsr_966f2cb3d54975c33bb4288da1101255" "kp_7478b8b1fe4d57baca3d99cd96068b47"
    (by decide +kernel) (by decide +kernel) (by decide +kernel)
  rw [run, run, Trace.stateAfter_append_singleton, approvedSecond, Trace.stateAfter_cons,
    Trace.stateAfter_cons, next, next, hplan, hplan, sampleCommand, sampleCommand, samplePlan_one, htwo,
    sharedItem, memoryId_sample, sampleRuntime_eq]
  constructor
  · decide +kernel
  · decide +kernel

theorem decisions_stay_sample :
    VersionsCountUp (run sampleRuntime sampleStart
        [.commit (sampleHandoff "1"), .decide (sampleCommand "1" .approve) true]) ∧
      ReceiptsComplete sampleRuntime (run sampleRuntime sampleStart
        [.commit (sampleHandoff "1"), .decide (sampleCommand "1" .approve) true])
        [sampleHandoff "1"] := by
  have hdiffer : EdgeIdsDiffer sampleRuntime [sampleHandoff "1"] := by
    intro a ha b _ edge hedge
    rw [List.mem_singleton.mp ha, plan_sampleHandoff] at hedge
    cases hedge
  exact (decisions_stay sampleRuntime initial_sampleStart
    [.commit (sampleHandoff "1"), .decide (sampleCommand "1" .approve) true] hdiffer).2.2

end Sample

end MindscapeLocalCore.KnowledgeProjection.GroupDecisions
