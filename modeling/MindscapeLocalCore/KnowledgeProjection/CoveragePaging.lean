import MindscapeLocalCore.KnowledgeProjection.Coverage

/-!
Reading the coverage of a scope page after page: which intakes come, and when all of them do.
-/

namespace MindscapeLocalCore.KnowledgeProjection.CoveragePaging

open Library Library.Json Library.KeysetPaging Library.Sorting
open KnowledgeRetrieval.HybridSearch (RetrievalAccessContext)
open Coverage

variable (db : CoreDatabase) (scopeType scopeId : String)

def OwnedBy (intake : SourceIntake) : Prop :=
  ∃ state ∈ db.states, state.sourceInstanceId = intake.sourceInstanceId ∧
    state.ownerType = scopeType ∧ state.ownerId = scopeId

instance (intake : SourceIntake) : Decidable (OwnedBy db scopeType scopeId intake) :=
  inferInstanceAs (Decidable (∃ _ ∈ _, _))

def scopeIntakes : List SourceIntake :=
  db.intakes.filter fun intake => OwnedBy db scopeType scopeId intake

def orderedIntakes : List SourceIntake :=
  sortBy (· ≥ ·) (intakeKey db) (scopeIntakes db scopeType scopeId)

/-- The items are all intakes of the scope, each once, in `(created_at, id)` descending order. -/
def ReturnsAll (items : List ProjectionCoverageItem) : Prop :=
  (items.map ProjectionCoverageItem.intakeId).Perm
      ((scopeIntakes db scopeType scopeId).map SourceIntake.id) ∧
    items.Pairwise fun a b =>
      toLex (b.createdAt, db.collationKey b.intakeId) <
        toLex (a.createdAt, db.collationKey a.intakeId)

variable {db scopeType scopeId}

/-! ### The rows of the query -/

theorem map_filter_const {α β κ : Type} [DecidableEq κ] (key : α → κ) (rows : List α)
    (matching : α → Prop) [DecidablePred matching] {k : κ} (row : β)
    (hkeys : (rows.map key).Nodup) (hmatching : ∀ a, matching a → key a = k) :
    ((rows.filter fun a => matching a).map fun _ => row) =
      if ∃ a ∈ rows, matching a then [row] else [] := by
  induction rows with
  | nil => simp
  | cons a rows ih =>
      obtain ⟨hfresh, hkeys⟩ := List.nodup_cons.mp hkeys
      rw [List.filter_cons]
      by_cases ha : matching a
      · have hnone : rows.filter (fun a => matching a) = [] := by
          refine List.filter_eq_nil_iff.mpr fun b hb hmatch => hfresh ?_
          have hb' := hmatching b (of_decide_eq_true hmatch)
          exact List.mem_map.mpr ⟨b, hb, hb'.trans (hmatching a ha).symm⟩
        rw [if_pos (decide_eq_true ha), hnone, if_pos ⟨a, List.mem_cons_self, ha⟩]
        rfl
      · rw [if_neg (by simpa using ha), ih hkeys]
        simp [ha]

theorem joinedRows_eq :
    joinedRows db scopeType scopeId = (scopeIntakes db scopeType scopeId).map (coreRow db) := by
  rw [joinedRows, scopeIntakes]
  induction db.intakes with
  | nil => rfl
  | cons intake intakes ih =>
      rw [List.flatMap_cons, ih, List.filter_cons,
        map_filter_const SourceState.sourceInstanceId db.states _ _ db.state_keys fun _ h => h.1]
      show (if OwnedBy db scopeType scopeId intake then [coreRow db intake] else []) ++ _ = _
      by_cases h : OwnedBy db scopeType scopeId intake
      · rw [if_pos h, if_pos (decide_eq_true h)]
        rfl
      · rw [if_neg h, if_neg (by simpa using h)]
        rfl

theorem nodup_scopeIntakes :
    ((scopeIntakes db scopeType scopeId).map SourceIntake.id).Nodup :=
  db.intake_keys.sublist (List.filter_sublist.map _)

theorem intakeKey_inj {a b : SourceIntake} (ha : a ∈ scopeIntakes db scopeType scopeId)
    (hb : b ∈ scopeIntakes db scopeType scopeId) (h : intakeKey db a = intakeKey db b) : a = b :=
  List.inj_on_of_nodup_map nodup_scopeIntakes ha hb
    (db.collation_inj (Prod.mk.inj (toLex.injective h)).2)

theorem sortBy_before (cursor : Option ℤ) :
    sortBy (· ≥ ·) (intakeKey db)
        (before SourceIntake.createdAt (scopeIntakes db scopeType scopeId) cursor) =
      before SourceIntake.createdAt (orderedIntakes db scopeType scopeId) cursor := by
  refine List.Perm.eq_of_pairwise ?_ (sortedBy_sortBy _)
    ((sortedBy_sortBy _).sublist List.filter_sublist)
    ((perm_sortBy _).trans ((perm_sortBy _).filter _).symm)
  intro a b ha hb hab hba
  have ha := List.mem_of_mem_filter (mem_sortBy.mp ha)
  have hb := mem_sortBy.mp (List.mem_of_mem_filter hb)
  exact intakeKey_inj ha hb (le_antisymm hba hab)

theorem coreRows_eq (limit : ℕ) (cursor : Option ℤ) :
    coreRows db scopeType scopeId limit cursor =
      ((before SourceIntake.createdAt (orderedIntakes db scopeType scopeId) cursor).take
        limit).map (coreRow db) := by
  rw [coreRows, joinedRows_eq, List.filter_map, sortBy_map, ← List.map_take, ← sortBy_before]
  rfl

/-! ### Pages -/

def itemPlace (item : ProjectionCoverageItem) : ℤ × String := (item.createdAt, item.intakeId)

def intakePlace (intake : SourceIntake) : ℤ × String := (intake.createdAt, intake.id)

variable (pythonText : Json → String) (vector : VectorDatabase)

theorem map_coveragePage (limit : ℤ) (cursor : Option ℤ) :
    (coveragePage db scopeType scopeId pythonText vector limit cursor).map itemPlace =
      (keysetPage SourceIntake.createdAt (orderedIntakes db scopeType scopeId)
        (boundedLimit limit) cursor).map intakePlace := by
  simp only [coveragePage, keysetPage, Page.map, coreRows_eq, List.map_map, List.length_map,
    List.getLast?_map, Option.map_map]
  rfl

theorem boundedLimit_pos (limit : ℤ) : 0 < boundedLimit limit := by
  rw [boundedLimit]
  omega

theorem sortedBy_orderedIntakes :
    SortedBy (· ≥ ·) (intakeKey db) (orderedIntakes db scopeType scopeId) :=
  sortedBy_sortBy _

theorem descending_orderedIntakes :
    Descending SourceIntake.createdAt (orderedIntakes db scopeType scopeId) := by
  refine sortedBy_orderedIntakes.imp ?_
  intro a b h
  exact Prod.Lex.monotone_fst _ _ h

variable {pythonText vector} {context : RetrievalAccessContext} {limit : ℤ}

theorem returnsAll_iff {items : List ProjectionCoverageItem}
    (hsub : (items.map itemPlace).Sublist
      ((orderedIntakes db scopeType scopeId).map intakePlace)) :
    ReturnsAll db scopeType scopeId items ↔
      items.map itemPlace = (orderedIntakes db scopeType scopeId).map intakePlace := by
  have hids : ∀ items : List ProjectionCoverageItem,
      items.map ProjectionCoverageItem.intakeId = (items.map itemPlace).map Prod.snd := by
    intro items
    rw [List.map_map]
    rfl
  have hperm : (orderedIntakes db scopeType scopeId).Perm (scopeIntakes db scopeType scopeId) :=
    perm_sortBy _
  constructor
  · rintro ⟨hall, -⟩
    refine hsub.eq_of_length ?_
    have hlength := hall.length_eq
    rw [List.length_map, List.length_map] at hlength
    rw [List.length_map, List.length_map, hlength, hperm.length_eq]
  · intro heq
    constructor
    · rw [hids, heq, List.map_map]
      exact hperm.map SourceIntake.id
    · have hstrict : (orderedIntakes db scopeType scopeId).Pairwise fun a b =>
          intakeKey db b < intakeKey db a := by
        have hnodup : (orderedIntakes db scopeType scopeId).Nodup :=
          hperm.nodup_iff.mpr (List.Nodup.of_map _ nodup_scopeIntakes)
        refine (sortedBy_orderedIntakes.and hnodup).imp_of_mem ?_
        rintro a b ha hb ⟨hle, hne⟩
        refine lt_of_le_of_ne hle fun hkey => hne ?_
        exact (intakeKey_inj (mem_sortBy.mp hb) (mem_sortBy.mp ha) hkey).symm
      have hplaces : ((orderedIntakes db scopeType scopeId).map intakePlace).Pairwise fun a b =>
          toLex (b.1, db.collationKey b.2) < toLex (a.1, db.collationKey a.2) :=
        List.pairwise_map.mpr hstrict
      rw [← heq] at hplaces
      exact List.pairwise_map.mp hplaces

/-- Reading page after page ends. It returns every intake of the scope once and in order exactly
where no page ends between two intakes of one `created_at`. -/
theorem pages_return_all_iff (h : admitCoverage scopeType scopeId context = .ok ()) :
    ∃ items,
      (∀ fuel, (scopeIntakes db scopeType scopeId).length < fuel →
        follow (listPage db scopeType scopeId pythonText vector context limit) fuel none =
          some (.ok items)) ∧
      (ReturnsAll db scopeType scopeId items ↔
        Unsplit SourceIntake.createdAt (orderedIntakes db scopeType scopeId)
          (boundedLimit limit)) := by
  have hperm : (orderedIntakes db scopeType scopeId).Perm (scopeIntakes db scopeType scopeId) :=
    perm_sortBy _
  obtain ⟨intakes, hfollow, hsub, hall⟩ :=
    follow_keysetPage (ε := String) (boundedLimit_pos limit)
      (@descending_orderedIntakes db scopeType scopeId) none
  rw [before_none] at hfollow hsub hall
  have hfetch : (fun cursor => (listPage db scopeType scopeId pythonText vector context limit
        cursor).map (Page.map itemPlace)) =
      fun cursor => (.ok (keysetPage SourceIntake.createdAt (orderedIntakes db scopeType scopeId)
        (boundedLimit limit) cursor) : Except String _).map (Page.map intakePlace) := by
    funext cursor
    rw [listPage, h]
    exact congrArg Except.ok (map_coveragePage pythonText vector limit cursor)
  obtain ⟨items, hread, hitems⟩ : ∃ items,
      follow (listPage db scopeType scopeId pythonText vector context limit)
          ((scopeIntakes db scopeType scopeId).length + 1) none = some (.ok items) ∧
        items.map itemPlace = intakes.map intakePlace := by
    have hmap := follow_map (listPage db scopeType scopeId pythonText vector context limit)
      itemPlace ((scopeIntakes db scopeType scopeId).length + 1) none
    rw [hfetch, follow_map, hfollow _ (by rw [hperm.length_eq]; omega)] at hmap
    obtain ⟨read, hread, hmap⟩ := Option.map_eq_some_iff.mp hmap.symm
    cases read with
    | error error => cases hmap
    | ok items => exact ⟨items, hread, Except.ok.inj hmap⟩
  refine ⟨items, ?_, ?_⟩
  · intro fuel hfuel
    obtain ⟨more, rfl⟩ := Nat.exists_eq_add_of_le (Nat.succ_le_of_lt hfuel)
    exact follow_add hread more
  · rw [returnsAll_iff (hitems ▸ hsub.map intakePlace), hitems, ← hall]
    constructor
    · intro heq
      exact hsub.eq_of_length (by simpa using congrArg List.length heq)
    · rintro rfl
      rfl

/-! ### Two intakes of one transaction -/

def sampleIntake (id : String) (createdAt : ℤ) : SourceIntake where
  id := id
  sourceInstanceId := "source"
  sourceRevision := id
  contentHash := id
  metadata := []
  createdAt := createdAt

theorem charCodes_inj (a b : String)
    (h : a.toList.map Char.toNat = b.toList.map Char.toNat) : a = b :=
  String.toList_inj.mp (List.map_injective_iff.mpr (fun _ _ => Char.toNat_inj.mp) h)

def twoIntakes (first second : ℤ) : CoreDatabase where
  states := [{ sourceInstanceId := "source", ownerType := "workspace", ownerId := "w" }]
  intakes := [sampleIntake "a" first, sampleIntake "b" second]
  admissions := []
  tasks := []
  collationKey := fun text => text.toList.map Char.toNat
  collation_inj := charCodes_inj
  state_keys := by decide +kernel
  intake_keys := by
    show ["a", "b"].Nodup
    decide +kernel
  task_keys := by decide +kernel

def sampleContext : RetrievalAccessContext where
  subjectUserId := "u"
  tenantId := "t"
  principals := []
  memberships := []
  permissions := [{ name := "knowledge.read", scopeType := .workspace, scopeId := "w" }]
  principalSetHash := ""
  agentRole := none

def noVectors : VectorDatabase where
  resources := []
  projections := []
  collationKey := fun text => text.toList.map Char.toNat

theorem pages_return_all_two :
    admitCoverage "workspace" "w" sampleContext = .ok () ∧
      ∃ items,
        (∀ fuel, (scopeIntakes (twoIntakes 1 2) "workspace" "w").length < fuel →
          follow (listPage (twoIntakes 1 2) "workspace" "w" (fun _ => "") noVectors sampleContext 1)
            fuel none = some (.ok items)) ∧
        (ReturnsAll (twoIntakes 1 2) "workspace" "w" items ↔
          Unsplit SourceIntake.createdAt (orderedIntakes (twoIntakes 1 2) "workspace" "w")
            (boundedLimit 1)) :=
  have hcoverage : admitCoverage "workspace" "w" sampleContext = .ok () := by decide +kernel
  ⟨hcoverage, pages_return_all_iff hcoverage⟩

/-- Of two intakes of one moment only one comes, one a page. -/
theorem sharedMoment_skipped :
    ∃ items,
      follow (listPage (twoIntakes 1 1) "workspace" "w" (fun _ => "") noVectors sampleContext 1)
        3 none = some (.ok items) ∧
      ¬ ReturnsAll (twoIntakes 1 1) "workspace" "w" items := by
  have hread : (follow (listPage (twoIntakes 1 1) "workspace" "w" (fun _ => "") noVectors
      sampleContext 1) 3 none).map (fun read => read.map (List.map itemPlace)) =
        some (.ok [(1, "b")]) := by
    decide +kernel
  obtain ⟨read, hfollow, hread⟩ := Option.map_eq_some_iff.mp hread
  cases read with
  | error error => cases hread
  | ok items =>
      refine ⟨items, hfollow, ?_⟩
      rintro ⟨hall, -⟩
      have hplaces := congrArg List.length (Except.ok.inj hread)
      have hlength := hall.length_eq
      rw [List.length_map] at hplaces hlength
      rw [hplaces, List.length_map] at hlength
      revert hlength
      decide +kernel

end MindscapeLocalCore.KnowledgeProjection.CoveragePaging
