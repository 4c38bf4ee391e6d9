import MindscapeLocalCore.KnowledgeAuthorization.Store

/-!
When a replacement of grants is exact and repeatable: no two grants share principal, relation and
effect, and their times and their order are those of the session of the database.
-/

namespace MindscapeLocalCore.KnowledgeAuthorization.GrantReplacement

open Library Library.DateTimes Library.UniqueInsert WriteContracts Store

variable {session : Session} {grant other : KnowledgeGrant} {grants : List KnowledgeGrant}
  {labelId resourceId : String} {revision : ℕ}

/-! ### Canonical grants -/

def Collides (grants others : List KnowledgeGrant) : Prop :=
  grants ≠ others ∧ visibilityPartitionHash grants = visibilityPartitionHash others

theorem hash_eq_iff {others : List KnowledgeGrant} :
    (visibilityPartitionHash grants = visibilityPartitionHash others ∧ ¬ Collides grants others) ↔
      grants = others := by
  constructor
  · rintro ⟨hhash, hcollides⟩
    by_contra hne
    exact hcollides ⟨hne, hhash⟩
  · rintro rfl
    exact ⟨rfl, fun hcollides => hcollides.1 rfl⟩

/-! ### Times in the database -/

def WrittenAsRead (session : Session) (time : DateTime) : Prop :=
  time.offset = some (session.offsetAt (session.momentOf time))

theorem read_momentOf {time : DateTime} :
    session.read (session.momentOf time) = some time ↔ WrittenAsRead session time := by
  rw [WrittenAsRead]
  constructor
  · intro h
    rw [Session.read] at h
    split at h
    · exact congrArg DateTime.offset (Option.some.inj h).symm
    · cases h
  · intro h
    have hwall : session.momentOf time + session.offsetAt (session.momentOf time) = time.wall := by
      have hmoment : session.momentOf time = time.wall - session.offsetAt (session.momentOf time) := by
        conv_lhs => rw [Session.momentOf, h]
      omega
    have hbound := time.wall_lt
    rw [Session.read]
    simp only [hwall]
    rw [dif_pos ⟨Int.natCast_nonneg _, by exact_mod_cast hbound⟩]
    cases time
    simp only [Int.toNat_natCast, Option.some.injEq, DateTime.mk.injEq, true_and]
    exact h.symm

theorem accepts_of_writtenAsRead {time : DateTime} (h : WrittenAsRead session time) :
    Accepts time := by
  intro o ho
  rw [Option.mem_def, h] at ho
  exact Option.some.inj ho ▸ session.accepted _

def GrantWritten (session : Session) (grant : KnowledgeGrant) : Prop :=
  (∀ time ∈ grant.validFrom, WrittenAsRead session time) ∧
    ∀ time ∈ grant.validUntil, WrittenAsRead session time

theorem mapM_read {time : Option DateTime} :
    (time.map session.momentOf).mapM session.read = some time ↔
      ∀ t ∈ time, WrittenAsRead session t := by
  cases time with
  | none => exact iff_of_true rfl fun _ hnone => by cases hnone
  | some time =>
      rw [Option.map_some, Option.mapM_some]
      constructor
      · intro h t ht
        obtain rfl := Option.some.inj ht
        obtain ⟨read, hread, hsome⟩ := Option.map_eq_some_iff.mp h
        obtain rfl := Option.some.inj hsome
        exact read_momentOf.mp hread
      · intro h
        show (session.read (session.momentOf time)).map some = _
        rw [read_momentOf.mpr (h time rfl)]
        rfl

theorem momentOf_of_written {time : DateTime} (h : WrittenAsRead session time) :
    session.momentOf time = time.moment.2 := by
  rw [WrittenAsRead] at h
  conv_lhs => rw [Session.momentOf, h]
  rw [DateTime.moment, h]
  rfl

theorem timesTaken_of_written (h : GrantWritten session grant) : TimesTaken session grant := by
  refine ⟨fun time htime => accepts_of_writtenAsRead (h.1 time htime),
    fun time htime => accepts_of_writtenAsRead (h.2 time htime), ?_⟩
  have hwindow := grant.window
  cases hfrom : grant.validFrom with
  | none => rfl
  | some validFrom =>
      cases huntil : grant.validUntil with
      | none => rfl
      | some validUntil =>
          rw [hfrom, huntil, isWindow, decide_eq_true_eq, le?] at hwindow
          split at hwindow
          · have hlt := of_decide_eq_false (Option.some.inj hwindow)
            rw [Option.map_some, Option.map_some, windowHolds,
              momentOf_of_written (h.1 validFrom hfrom), momentOf_of_written (h.2 validUntil huntil)]
            exact decide_eq_true (Int.not_le.mp hlt)
          · cases hwindow

theorem readGrant_storedRow {id : String} :
    readGrant session (storedRow session labelId revision id grant) = some grant ↔
      GrantWritten session grant := by
  constructor
  · intro h
    obtain ⟨validFrom, hfrom, h⟩ := Option.bind_eq_some_iff.mp h
    obtain ⟨validUntil, huntil, h⟩ := Option.bind_eq_some_iff.mp h
    split at h
    · have hgrant := Option.some.inj h
      obtain rfl : validFrom = grant.validFrom := congrArg KnowledgeGrant.validFrom hgrant
      obtain rfl : validUntil = grant.validUntil := congrArg KnowledgeGrant.validUntil hgrant
      exact ⟨mapM_read.mp hfrom, mapM_read.mp huntil⟩
    · cases h
  · rintro ⟨hfrom, huntil⟩
    refine Option.bind_eq_some_iff.mpr ⟨grant.validFrom, mapM_read.mpr hfrom, ?_⟩
    refine Option.bind_eq_some_iff.mpr ⟨grant.validUntil, mapM_read.mpr huntil, ?_⟩
    exact dif_pos grant.window

/-! ### Reading a list back -/

def grantIdOf (labelId : String) (grant : KnowledgeGrant) : String :=
  (securityGrantId labelId grant.key).getD ""

def rowsOf (session : Session) (labelId : String) (revision : ℕ) (grants : List KnowledgeGrant) :
    List GrantRow :=
  grants.map fun grant => storedRow session labelId revision (grantIdOf labelId grant) grant

def InDatabaseOrder (session : Session) (grants : List KnowledgeGrant) : Prop :=
  Sorting.SortedBy (· ≤ ·) (fun grant => grant.key.texts.map session.collationKey) grants

theorem collated_inj {a b : GrantKey}
    (h : a.texts.map session.collationKey = b.texts.map session.collationKey) : a = b :=
  GrantKey.texts_inj.mp (List.map_injective_iff.mpr session.collation_inj h)

theorem key_of_readGrant {row : GrantRow} (h : readGrant session row = some grant) :
    grant.key = row.key := by
  obtain ⟨validFrom, -, h⟩ := Option.bind_eq_some_iff.mp h
  obtain ⟨validUntil, -, h⟩ := Option.bind_eq_some_iff.mp h
  split at h
  · obtain rfl := Option.some.inj h
    rfl
  · cases h

theorem keys_of_read {rows : List GrantRow}
    (h : rows.map (readGrant session) = grants.map some) :
    grants.map KnowledgeGrant.key = rows.map GrantRow.key := by
  induction rows generalizing grants with
  | nil =>
      cases grants with
      | nil => rfl
      | cons grant grants => cases h
  | cons row rows ih =>
      cases grants with
      | nil => cases h
      | cons grant grants =>
          obtain ⟨hgrant, hrest⟩ := List.cons.inj h
          rw [List.map_cons, List.map_cons, key_of_readGrant hgrant, ih hrest]

theorem collated_le_of_rowKey_le {row later : GrantRow} (h : rowKey session row ≤ rowKey session later) :
    row.key.texts.map session.collationKey ≤ later.key.texts.map session.collationKey := by
  rcases Prod.Lex.le_iff.mp h with hlt | ⟨heq, -⟩
  · exact le_of_lt hlt
  · exact le_of_eq heq

theorem sortedBy_rowKey_rowsOf (hapart : grants.Pairwise fun grant other => grant.key ≠ other.key)
    (h : InDatabaseOrder session grants) :
    Sorting.SortedBy (· ≤ ·) (rowKey session) (rowsOf session labelId revision grants) := by
  refine List.pairwise_map.mpr ((hapart.and h).imp ?_)
  rintro grant other ⟨hne, hle⟩
  refine Prod.Lex.le_iff.mpr (.inl (lt_of_le_of_ne hle fun heq => hne ?_))
  exact collated_inj heq

theorem readBack_iff (hapart : grants.Pairwise fun grant other => grant.key ≠ other.key) :
    (Sorting.sortBy (· ≤ ·) (rowKey session) (rowsOf session labelId revision grants)).mapM
        (readGrant session) = some grants ↔
      (∀ grant ∈ grants, GrantWritten session grant) ∧ InDatabaseOrder session grants := by
  have hwritten : (rowsOf session labelId revision grants).map (readGrant session) =
      grants.map some ↔ ∀ grant ∈ grants, GrantWritten session grant := by
    rw [rowsOf, List.map_map, List.map_inj_left]
    exact forall₂_congr fun grant _ => readGrant_storedRow
  rw [Guarded.mapM_eq_some]
  constructor
  · intro h
    have hsorted : Sorting.SortedBy (· ≤ ·) (rowKey session)
        (Sorting.sortBy (· ≤ ·) (rowKey session) (rowsOf session labelId revision grants)) :=
      Sorting.sortedBy_sortBy _
    have hordered : InDatabaseOrder session grants := by
      have hkeys : (grants.map KnowledgeGrant.key).Pairwise fun key later =>
          key.texts.map session.collationKey ≤ later.texts.map session.collationKey := by
        rw [keys_of_read h]
        exact List.pairwise_map.mpr (hsorted.imp collated_le_of_rowKey_le)
      rw [List.pairwise_map] at hkeys
      exact hkeys
    rw [Sorting.sortBy_eq_self_iff.mpr (sortedBy_rowKey_rowsOf hapart hordered)] at h
    exact ⟨hwritten.mp h, hordered⟩
  · rintro ⟨hall, hordered⟩
    rw [Sorting.sortBy_eq_self_iff.mpr (sortedBy_rowKey_rowsOf hapart hordered)]
    exact hwritten.mpr hall

/-! ### Identities -/

theorem stableId_isSome {idPrefix : String} {parts : List String}
    (h : ∀ part ∈ parts, ¬ PythonText.Blank part) : (stableId idPrefix parts).isSome = true := by
  have hnone : "" ∉ parts.map PythonText.strip := by
    intro hmem
    obtain ⟨part, hpart, hempty⟩ := List.mem_map.mp hmem
    exact h part hpart (PythonText.strip_eq_empty_iff.mp hempty)
  simp only [stableId]
  rw [if_neg hnone]
  rfl

theorem not_blank_stableId {idPrefix id : String} {parts : List String}
    (h : stableId idPrefix parts = some id) : ¬ PythonText.Blank id := by
  simp only [stableId] at h
  split at h
  · cases h
  · obtain rfl := Option.some.inj h
    refine PythonText.not_blank_of_mem (c := '_') ?_ (by decide)
    simp only [String.toList_append, List.mem_append]
    exact .inl (.inr (by decide))

theorem isSpace_of_isAlphanumeric {c : Char} (h : isAlphanumeric c = true) :
    PythonText.isSpace c = false := by
  have hrange : 48 ≤ c.toNat ∧ c.toNat ≤ 122 := by
    simp only [isAlphanumeric, Bool.or_eq_true, Bool.and_eq_true, decide_eq_true_eq, Char.le_def,
      UInt32.le_iff_toNat_le] at h
    show 48 ≤ c.val.toNat ∧ c.val.toNat ≤ 122
    rcases h with (⟨hlow, hhigh⟩ | ⟨hlow, hhigh⟩) | ⟨hlow, hhigh⟩
    · exact ⟨Nat.le_trans (by decide) hlow, Nat.le_trans hhigh (by decide)⟩
    · exact ⟨Nat.le_trans (by decide) hlow, Nat.le_trans hhigh (by decide)⟩
    · exact ⟨Nat.le_trans (by decide) hlow, Nat.le_trans hhigh (by decide)⟩
  exact PythonText.isSpace_of_visible (by omega) (by omega)

theorem not_blank_token {text : String} (h : isToken text = true) : ¬ PythonText.Blank text := by
  rw [isToken] at h
  split at h
  · cases h
  · rename_i first rest htext
    refine PythonText.not_blank_of_mem (c := first) ?_ ?_
    · rw [htext]
      exact List.mem_cons_self
    · simp only [Bool.and_eq_true] at h
      exact isSpace_of_isAlphanumeric h.1.1

theorem securityGrantId_isSome (hlabel : ¬ PythonText.Blank labelId) (grant : KnowledgeGrant) :
    (securityGrantId labelId grant.key).isSome = true := by
  refine stableId_isSome fun part hpart => ?_
  simp only [GrantKey.texts, List.mem_cons, List.not_mem_nil, or_false] at hpart
  rcases hpart with rfl | rfl | rfl | rfl | rfl
  · exact hlabel
  · cases grant.key.principalType <;> decide
  · exact not_blank_token grant.principal.token
  · cases grant.key.relation <;> decide
  · cases grant.key.effect <;> decide

theorem not_blank_hexdigest (text : String) : ¬ PythonText.Blank (hexdigest text) := by
  have hlength : (hexdigest text).toList.length = 64 := by
    rw [hexdigest, String.toList_ofList, Hex.length_hexText]
  cases hdigits : (hexdigest text).toList with
  | nil =>
      rw [hdigits] at hlength
      cases hlength
  | cons c rest =>
      have hmem : c ∈ (hexdigest text).toList := hdigits ▸ List.mem_cons_self
      refine PythonText.not_blank_of_mem hmem (isSpace_of_isAlphanumeric ?_)
      rw [hexdigest, String.toList_ofList] at hmem
      have hhex := Hex.isHexDigit_of_mem_hexText hmem
      simp only [Hex.isHexDigit, Bool.or_eq_true, Bool.and_eq_true, decide_eq_true_eq] at hhex
      simp only [isAlphanumeric, Bool.or_eq_true, Bool.and_eq_true, decide_eq_true_eq]
      rcases hhex with ⟨hlow, hhigh⟩ | hdigit
      · exact .inl (.inr ⟨hlow, le_trans hhigh (by decide)⟩)
      · exact .inr hdigit

theorem not_blank_repr (n : ℕ) : ¬ PythonText.Blank n.repr := by
  cases hdigits : n.repr.toList with
  | nil =>
      rw [Nat.repr, String.toList_ofList] at hdigits
      exact absurd hdigits Nat.toDigits_ne_nil
  | cons c rest =>
      have hmem : c ∈ n.repr.toList := hdigits ▸ List.mem_cons_self
      refine PythonText.not_blank_of_mem hmem (isSpace_of_isAlphanumeric ?_)
      have hdigit := NumberText.isDigit_of_mem_natRepr hmem
      simp only [Char.isDigit, Bool.and_eq_true, decide_eq_true_eq] at hdigit
      simp only [isAlphanumeric, Bool.or_eq_true, Bool.and_eq_true, decide_eq_true_eq]
      exact .inr hdigit

theorem aclMutationId_isSome (hresource : ¬ PythonText.Blank resourceId) (digestText : String) :
    (aclMutationId resourceId revision (hexdigest digestText)).isSome = true := by
  refine stableId_isSome fun part hpart => ?_
  simp only [List.mem_cons, List.not_mem_nil, or_false] at hpart
  rcases hpart with rfl | rfl | rfl
  · exact hresource
  · exact not_blank_repr revision
  · exact not_blank_hexdigest digestText

/-! ### Writing the grants -/

theorem grantRow_eq (hlabel : ¬ PythonText.Blank labelId) (grant : KnowledgeGrant) :
    grantRow session labelId revision grant =
      if TimesTaken session grant then
        some (storedRow session labelId revision (grantIdOf labelId grant) grant)
      else none := by
  obtain ⟨id, hid⟩ := Option.isSome_iff_exists.mp (securityGrantId_isSome hlabel grant)
  rw [grantRow, grantIdOf, hid]
  rfl

theorem insertGrants_eq_some (hlabel : ¬ PythonText.Blank labelId) {rows rows' : List GrantRow} :
    insertGrants session labelId revision grants rows = some rows' ↔
      (∀ grant ∈ grants, TimesTaken session grant) ∧
        insertRows SameGrant (rowsOf session labelId revision grants) rows = some rows' := by
  have htaken : ∀ news, grants.mapM (grantRow session labelId revision) = some news ↔
      (∀ grant ∈ grants, TimesTaken session grant) ∧
        rowsOf session labelId revision grants = news := by
    intro news
    rw [Guarded.mapM_eq_some]
    constructor
    · intro h
      have htimes : ∀ grant ∈ grants, TimesTaken session grant := by
        intro grant hgrant
        have hmem := List.mem_map_of_mem (f := grantRow session labelId revision) hgrant
        rw [h, grantRow_eq hlabel] at hmem
        split at hmem
        · rename_i htimes
          exact htimes
        · obtain ⟨row, -, hrow⟩ := List.mem_map.mp hmem
          cases hrow
      refine ⟨htimes, List.map_injective_iff.mpr (Option.some_injective _) ?_⟩
      rw [← h, rowsOf, List.map_map]
      refine List.map_congr_left fun grant hgrant => ?_
      rw [grantRow_eq hlabel, if_pos (htimes grant hgrant)]
      rfl
    · rintro ⟨htimes, rfl⟩
      rw [rowsOf, List.map_map]
      refine List.map_congr_left fun grant hgrant => ?_
      rw [grantRow_eq hlabel, if_pos (htimes grant hgrant)]
      rfl
  rw [insertGrants, Option.bind_eq_bind, Option.bind_eq_some_iff]
  constructor
  · rintro ⟨news, hnews, hinsert⟩
    obtain ⟨htimes, rfl⟩ := (htaken news).mp hnews
    exact ⟨htimes, hinsert⟩
  · rintro ⟨htimes, hinsert⟩
    exact ⟨_, (htaken _).mpr ⟨htimes, rfl⟩, hinsert⟩

/-- The identities that a replacement draws are those of one grant each, and new. -/
structure IdsFree (db : Database) (resourceId labelId : String) (revision : ℕ)
    (grants : List KnowledgeGrant) : Prop where
  single : ∀ grant ∈ grants, ∀ other ∈ grants,
    grantIdOf labelId grant = grantIdOf labelId other → grant.key = other.key
  fresh : ∀ grant ∈ grants, ∀ row ∈ db.grants, row.securityLabelId ≠ labelId →
    grantIdOf labelId grant ≠ row.grantId
  unaudited : ∀ row ∈ db.audit, aclMutationId resourceId (revision + 1)
    (diffDigest "grants_replaced" grants) ≠ some row.mutationId

theorem sameGrant_storedRow {id id' : String} :
    SameGrant (storedRow session labelId revision id grant)
        (storedRow session labelId revision id' other) ↔ id = id' ∨ grant.key = other.key := by
  constructor
  · rintro (hid | ⟨-, hkey⟩)
    · exact .inl hid
    · exact .inr hkey
  · rintro (hid | hkey)
    · exact .inl hid
    · exact .inr ⟨rfl, hkey⟩

theorem sameGrant_of_other {id : String} {row : GrantRow} (h : row.securityLabelId ≠ labelId) :
    SameGrant (storedRow session labelId revision id grant) row ↔ id = row.grantId := by
  refine or_iff_left fun hsame => h ?_
  exact hsame.1.symm

theorem insertRows_rowsOf {rows rows' : List GrantRow} :
    insertRows SameGrant (rowsOf session labelId revision grants) (othersOf labelId rows) =
        some rows' ↔
      grants.Pairwise (fun grant other => grant.key ≠ other.key) ∧
        (∀ grant ∈ grants, ∀ other ∈ grants,
          grantIdOf labelId grant = grantIdOf labelId other → grant.key = other.key) ∧
        (∀ grant ∈ grants, ∀ row ∈ rows, row.securityLabelId ≠ labelId →
          grantIdOf labelId grant ≠ row.grantId) ∧
        rows' = othersOf labelId rows ++ rowsOf session labelId revision grants := by
  have habsent : (∀ row ∈ rowsOf session labelId revision grants,
      Absent SameGrant row (othersOf labelId rows)) ↔
        ∀ grant ∈ grants, ∀ row ∈ rows, row.securityLabelId ≠ labelId →
          grantIdOf labelId grant ≠ row.grantId := by
    rw [rowsOf, List.forall_mem_map]
    refine forall₂_congr fun grant _ => ?_
    simp only [Absent, othersOf, List.mem_filter, decide_eq_true_eq, and_imp]
    refine forall₂_congr fun row _ => forall_congr' fun hlabel => ?_
    exact not_congr (sameGrant_of_other hlabel)
  have hpairwise : (rowsOf session labelId revision grants).Pairwise
      (fun row later => ¬ SameGrant later row) ↔
        grants.Pairwise (fun grant other => grant.key ≠ other.key) ∧
          ∀ grant ∈ grants, ∀ other ∈ grants,
            grantIdOf labelId grant = grantIdOf labelId other → grant.key = other.key := by
    rw [rowsOf, List.pairwise_map]
    simp only [sameGrant_storedRow, not_or]
    constructor
    · intro hapart
      refine ⟨hapart.imp fun hne hkey => hne.2 hkey.symm, ?_⟩
      have hsymm : Std.Symm fun grant other : KnowledgeGrant =>
          grantIdOf labelId grant = grantIdOf labelId other → grant.key = other.key :=
        ⟨fun grant other h hid => (h hid.symm).symm⟩
      refine List.Pairwise.forall_of_forall (fun _ _ _ => rfl) ?_
      exact hapart.imp fun hne hid => absurd hid.symm hne.1
    · rintro ⟨hapart, hsingle⟩
      refine hapart.imp_of_mem fun hgrant hother hne => ⟨fun hid => hne ?_, fun hkey => hne hkey.symm⟩
      exact hsingle _ hgrant _ hother hid.symm
  rw [insertRows_eq_some, habsent, hpairwise]
  tauto

theorem insertAudit_isSome (hresource : ¬ PythonText.Blank resourceId) {context : AccessContext}
    {event : String} {oldRevision : ℕ} {rows : List AuditRow} :
    (insertAudit resourceId labelId oldRevision revision context event grants rows).isSome = true ↔
      ∀ row ∈ rows, aclMutationId resourceId revision (diffDigest event grants) ≠
        some row.mutationId := by
  have hsome : (aclMutationId resourceId revision (diffDigest event grants)).isSome = true :=
    aclMutationId_isSome hresource _
  obtain ⟨id, hid⟩ := Option.isSome_iff_exists.mp hsome
  rw [insertAudit]
  simp only [hid, Option.bind_eq_bind, Option.bind_some, Option.isSome_iff_exists,
    insertRow_eq_some]
  constructor
  · rintro ⟨rows', hclash, -⟩ row hrow hsame
    exact hclash row hrow (Option.some.inj hsame)
  · intro hnew
    exact ⟨_, fun row hrow hsame => hnew row hrow (congrArg some hsame), rfl⟩

theorem replaceGrants_eq_some {db db' : Database} {context : AccessContext}
    {mutation : KnowledgeAclMutation} {revision' : ℕ}
    (hexpected : mutation.expectedAuthzRevision = revision)
    (hfound : ∃ label ∈ db.labels, label.securityLabelId = labelId ∧
      label.authzRevision = revision) :
    replaceGrants session db resourceId labelId revision context mutation =
        some (db', revision') ↔
      revision' = revision + 1 ∧ ∃ rows audit,
        insertGrants session labelId (revision + 1) mutation.grants (othersOf labelId db.grants) =
            some rows ∧
          insertAudit resourceId labelId revision (revision + 1) context "grants_replaced"
              mutation.grants db.audit = some audit ∧
            db' =
              { db with
                labels := db.labels.map (raiseRevision labelId revision)
                grants := rows
                audit := audit } := by
  rw [replaceGrants, if_neg (not_not.mpr hexpected)]
  simp only [hfound, if_true, Option.bind_eq_bind, Option.bind_eq_some_iff, Option.some.injEq,
    Prod.mk.injEq]
  constructor
  · rintro ⟨rows, hrows, audit, haudit, rfl, rfl⟩
    exact ⟨rfl, rows, audit, hrows, haudit, rfl⟩
  · rintro ⟨rfl, rows, audit, hrows, haudit, rfl⟩
    exact ⟨rows, hrows, audit, haudit, rfl, rfl⟩

end MindscapeLocalCore.KnowledgeAuthorization.GrantReplacement
