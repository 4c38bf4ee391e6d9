import MindscapeLocalCore.KnowledgeProjection.GroupSynthesis

/-!
What the rows of a plan say about its claims: each claim stands in one row, and a row merges
the claims with its subject and text.
-/

namespace MindscapeLocalCore.KnowledgeProjection.CandidateRows

open Library Library.JsonNumber GroupSynthesis

variable (runtime : Runtime)

def rowKey (row : CandidateRow) : List String :=
  [row.variant.stableSubjectKey, row.variant.normalizedClaim]

def group (claims : List AgentClaim) (key : List String) : List AgentClaim :=
  claims.filter fun claim => variantKey runtime claim = key

def build (first : AgentClaim) (members : List AgentClaim) : Variant :=
  members.foldl Variant.add (newVariant runtime first)

structure Merges (claims : List AgentClaim) (row : CandidateRow) : Prop where
  agentIds : ∀ id, id ∈ row.variant.agentIds ↔
    ∃ claim ∈ claims, variantKey runtime claim = rowKey row ∧ claim.agentId = id
  agentRoles : ∀ role, role ∈ row.variant.agentRoles ↔
    ∃ claim ∈ claims, variantKey runtime claim = rowKey row ∧ claim.agentRole = role
  evidenceRefs : ∀ ref, ref ∈ row.variant.evidenceRefs ↔
    ∃ claim ∈ claims, variantKey runtime claim = rowKey row ∧ ref ∈ claim.evidenceRefs
  reached : ∃ claim ∈ claims, variantKey runtime claim = rowKey row ∧
    claim.confidence = row.variant.confidence
  greatest : ∀ claim ∈ claims, variantKey runtime claim = rowKey row →
    claim.confidence.valueLe row.variant.confidence = true

/-- Every claim stands in exactly one row, every row merges its claims, and the conflict sets
are the subjects with at least two rows. -/
structure Represents (claims : List AgentClaim) (rows : List CandidateRow)
    (conflicts : List ConflictSet) : Prop where
  distinct : (rows.map rowKey).Nodup
  present : ∀ claim ∈ claims, ∃ row ∈ rows, rowKey row = variantKey runtime claim
  merges : ∀ row ∈ rows, Merges runtime claims row
  subjects : ∀ subject, subject ∈ conflicts.map ConflictSet.stableSubjectKey ↔
    2 ≤ (rows.filter fun row => row.variant.stableSubjectKey = subject).length
  members : ∀ conflict ∈ conflicts, conflict.memoryIds.Perm
    (idsOfSubject rows conflict.stableSubjectKey)

variable {runtime} {claims : List AgentClaim} {groupId : String}

theorem mem_sortedSet {items : List String} {item : String} :
    item ∈ sortedSet items ↔ item ∈ items := by
  rw [sortedSet, List.mem_mergeSort, List.mem_dedup]

theorem foldl_add_key (members : List AgentClaim) (variant : Variant) :
    (members.foldl Variant.add variant).stableSubjectKey = variant.stableSubjectKey ∧
      (members.foldl Variant.add variant).normalizedClaim = variant.normalizedClaim := by
  induction members generalizing variant with
  | nil => exact ⟨rfl, rfl⟩
  | cons claim rest ih => exact ih (variant.add claim)

theorem foldl_add_lists (members : List AgentClaim) (variant : Variant) :
    (members.foldl Variant.add variant).agentIds =
        variant.agentIds ++ members.map AgentClaim.agentId ∧
      (members.foldl Variant.add variant).agentRoles =
        variant.agentRoles ++ members.map AgentClaim.agentRole ∧
      (members.foldl Variant.add variant).evidenceRefs =
        variant.evidenceRefs ++ members.flatMap AgentClaim.evidenceRefs := by
  induction members generalizing variant with
  | nil =>
      refine ⟨?_, ?_, ?_⟩
      · exact (List.append_nil _).symm
      · exact (List.append_nil _).symm
      · exact (List.append_nil _).symm
  | cons claim rest ih =>
      obtain ⟨hids, hroles, hrefs⟩ := ih (variant.add claim)
      rw [List.foldl_cons, hids, hroles, hrefs, Variant.add]
      simp only [List.map_cons, List.flatMap_cons, List.append_assoc, List.singleton_append,
        and_self]

theorem foldl_add_confidence (members : List AgentClaim) (variant : Variant) :
    variant.confidence.valueLe (members.foldl Variant.add variant).confidence = true ∧
      (∀ claim ∈ members,
        claim.confidence.valueLe (members.foldl Variant.add variant).confidence = true) ∧
      ((members.foldl Variant.add variant).confidence = variant.confidence ∨
        ∃ claim ∈ members, (members.foldl Variant.add variant).confidence = claim.confidence) := by
  induction members generalizing variant with
  | nil =>
      refine ⟨valueLe_refl _, fun claim hclaim => absurd hclaim List.not_mem_nil, .inl rfl⟩
  | cons claim rest ih =>
      obtain ⟨hstart, hrest, hreached⟩ := ih (variant.add claim)
      have hleft : variant.confidence.valueLe (variant.add claim).confidence = true :=
        valueLe_maximum_left _ _
      have hright : claim.confidence.valueLe (variant.add claim).confidence = true :=
        valueLe_maximum_right _ _
      rw [List.foldl_cons]
      refine ⟨valueLe_trans hleft hstart, fun other hother => ?_, ?_⟩
      · rcases List.mem_cons.mp hother with rfl | hother
        · exact valueLe_trans hright hstart
        · exact hrest other hother
      · rcases hreached with hsame | ⟨other, hother, hsame⟩
        · rw [hsame]
          rcases maximum_eq variant.confidence claim.confidence with hmax | hmax
          · exact .inl hmax
          · exact .inr ⟨claim, List.mem_cons_self, hmax⟩
        · exact .inr ⟨other, List.mem_cons_of_mem _ hother, hsame⟩

theorem getItem_variants (key : List String) :
    ItemDict.getItem key (claims.foldl (addClaim runtime) []) =
      (group runtime claims key).head?.map fun first =>
        build runtime first (group runtime claims key) := by
  induction claims using List.reverseRecOn with
  | nil => rfl
  | append_singleton claims claim ih =>
      rw [List.foldl_append, List.foldl_cons, List.foldl_nil, addClaim, ItemDict.getItem_setItem,
        group, List.filter_append, ← group]
      by_cases hkey : key = variantKey runtime claim
      · subst hkey
        have hkeep : [claim].filter (fun other =>
            variantKey runtime other = variantKey runtime claim) = [claim] :=
          List.filter_cons_of_pos (decide_eq_true rfl)
        rw [if_pos rfl, ih, hkeep]
        cases hgroup : group runtime claims (variantKey runtime claim) with
        | nil => rfl
        | cons first rest =>
            rw [List.head?_cons, List.cons_append, List.head?_cons, Option.map_some,
              Option.map_some, Option.getD_some, build, build, ← List.cons_append,
              List.foldl_append]
            rfl
      · have hskip : [claim].filter (fun claim => variantKey runtime claim = key) = [] := by
          refine List.filter_cons_of_neg ?_
          simpa using fun h => hkey h.symm
        rw [if_neg hkey, ih, hskip, List.append_nil]

theorem nodup_variants : ((claims.foldl (addClaim runtime) []).map Prod.fst).Nodup := by
  induction claims using List.reverseRecOn with
  | nil => exact List.nodup_nil
  | append_singleton claims claim ih =>
      rw [List.foldl_append]
      exact ItemDict.nodup_setItem ih

theorem mem_candidateRows {row : CandidateRow} :
    row ∈ candidateRows runtime groupId claims ↔
      ∃ key first, (group runtime claims key).head? = some first ∧
        row = candidateRow runtime groupId (build runtime first (group runtime claims key)) := by
  rw [candidateRows, List.mem_map]
  constructor
  · rintro ⟨⟨key, variant⟩, hitem, rfl⟩
    have hget := ItemDict.getItem_of_mem nodup_variants (List.mem_mergeSort.mp hitem)
    rw [getItem_variants, Option.map_eq_some_iff] at hget
    obtain ⟨first, hfirst, rfl⟩ := hget
    exact ⟨key, first, hfirst, rfl⟩
  · rintro ⟨key, first, hfirst, rfl⟩
    refine ⟨(key, build runtime first (group runtime claims key)), ?_, rfl⟩
    refine List.mem_mergeSort.mpr (ItemDict.mem_of_getItem ?_)
    rw [getItem_variants, hfirst]
    rfl

theorem mem_group {key : List String} {claim : AgentClaim} :
    claim ∈ group runtime claims key ↔ claim ∈ claims ∧ variantKey runtime claim = key := by
  rw [group, List.mem_filter, decide_eq_true_iff]

theorem exists_mem_group {key : List String} {p : AgentClaim → Prop} :
    (∃ claim ∈ group runtime claims key, p claim) ↔
      ∃ claim ∈ claims, variantKey runtime claim = key ∧ p claim := by
  constructor
  · rintro ⟨claim, hclaim, hp⟩
    exact ⟨claim, (mem_group.mp hclaim).1, (mem_group.mp hclaim).2, hp⟩
  · rintro ⟨claim, hclaim, hsame, hp⟩
    exact ⟨claim, mem_group.mpr ⟨hclaim, hsame⟩, hp⟩

theorem rowKey_build {key : List String} {first : AgentClaim}
    (hfirst : (group runtime claims key).head? = some first) :
    rowKey (candidateRow runtime groupId (build runtime first (group runtime claims key))) =
      key := by
  have hkey : variantKey runtime first = key := (mem_group.mp (List.mem_of_head? hfirst)).2
  obtain ⟨hsubject, hclaim⟩ := foldl_add_key (group runtime claims key)
    (newVariant runtime first)
  show [(build runtime first _).stableSubjectKey, (build runtime first _).normalizedClaim] = key
  rw [build, hsubject, hclaim]
  exact hkey

theorem merges_of_mem {row : CandidateRow} (hrow : row ∈ candidateRows runtime groupId claims) :
    Merges runtime claims row := by
  obtain ⟨key, first, hfirst, rfl⟩ := mem_candidateRows.mp hrow
  have hkey : rowKey (candidateRow runtime groupId
      (build runtime first (group runtime claims key))) = key := rowKey_build hfirst
  obtain ⟨hids, hroles, hrefs⟩ := foldl_add_lists (group runtime claims key)
    (newVariant runtime first)
  obtain ⟨-, hgreatest, hreached⟩ := foldl_add_confidence (group runtime claims key)
    (newVariant runtime first)
  refine ⟨fun id => ?_, fun role => ?_, fun ref => ?_, ?_, fun claim hclaim hsame => ?_⟩
  · rw [hkey]
    show id ∈ sortedSet (build runtime first _).agentIds ↔ _
    rw [mem_sortedSet, build, hids]
    show id ∈ (group runtime claims key).map AgentClaim.agentId ↔ _
    rw [List.mem_map]
    exact exists_mem_group
  · rw [hkey]
    show role ∈ sortedSet (build runtime first _).agentRoles ↔ _
    rw [mem_sortedSet, build, hroles]
    show role ∈ (group runtime claims key).map AgentClaim.agentRole ↔ _
    rw [List.mem_map]
    exact exists_mem_group
  · rw [hkey]
    show ref ∈ sortedSet (build runtime first _).evidenceRefs ↔ _
    rw [mem_sortedSet, build, hrefs]
    show ref ∈ (group runtime claims key).flatMap AgentClaim.evidenceRefs ↔ _
    rw [List.mem_flatMap]
    exact exists_mem_group
  · rw [hkey]
    refine exists_mem_group.mp ?_
    rcases hreached with hsame | ⟨claim, hclaim, hsame⟩
    · exact ⟨first, List.mem_of_head? hfirst, hsame.symm⟩
    · exact ⟨claim, hclaim, hsame.symm⟩
  · rw [hkey] at hsame
    exact hgreatest claim (mem_group.mpr ⟨hclaim, hsame⟩)

theorem present_of_mem {claim : AgentClaim} (hclaim : claim ∈ claims) :
    ∃ row ∈ candidateRows runtime groupId claims, rowKey row = variantKey runtime claim := by
  have hmem : claim ∈ group runtime claims (variantKey runtime claim) :=
    mem_group.mpr ⟨hclaim, rfl⟩
  obtain ⟨first, hfirst⟩ : ∃ first,
      (group runtime claims (variantKey runtime claim)).head? = some first := by
    cases hgroup : group runtime claims (variantKey runtime claim) with
    | nil =>
        rw [hgroup] at hmem
        cases hmem
    | cons first rest => exact ⟨first, rfl⟩
  exact ⟨_, mem_candidateRows.mpr ⟨_, first, hfirst, rfl⟩, rowKey_build hfirst⟩

theorem map_rowKey_candidateRows :
    (candidateRows runtime groupId claims).map rowKey =
      ((claims.foldl (addClaim runtime) []).mergeSort
        fun a b => decide (a.1 ≤ b.1)).map Prod.fst := by
  rw [candidateRows, List.map_map]
  refine List.map_congr_left fun item hitem => ?_
  have hget := ItemDict.getItem_of_mem nodup_variants (List.mem_mergeSort.mp hitem)
  rw [getItem_variants, Option.map_eq_some_iff] at hget
  obtain ⟨first, hfirst, hbuild⟩ := hget
  rw [Function.comp_apply, ← hbuild]
  exact rowKey_build hfirst

theorem nodup_rowKeys : ((candidateRows runtime groupId claims).map rowKey).Nodup := by
  rw [map_rowKey_candidateRows]
  exact ((List.mergeSort_perm _ _).map Prod.fst).nodup_iff.mpr nodup_variants

theorem mem_conflictSets {rows : List CandidateRow} {conflict : ConflictSet} :
    conflict ∈ conflictSets rows ↔
      2 ≤ (idsOfSubject rows conflict.stableSubjectKey).length ∧
        conflict.memoryIds =
          (idsOfSubject rows conflict.stableSubjectKey).mergeSort fun a b => decide (a ≤ b) := by
  rw [conflictSets, List.mem_map]
  constructor
  · rintro ⟨subject, hsubject, rfl⟩
    exact ⟨of_decide_eq_true (List.mem_filter.mp hsubject).2, rfl⟩
  · rintro ⟨hlength, hids⟩
    refine ⟨conflict.stableSubjectKey, List.mem_filter.mpr ⟨?_, decide_eq_true hlength⟩, ?_⟩
    · -- a subject with rows is a subject of a row
      obtain ⟨id, hid⟩ := List.exists_mem_of_length_pos (Nat.lt_of_lt_of_le Nat.zero_lt_two hlength)
      obtain ⟨row, hrow, -⟩ := List.mem_map.mp hid
      obtain ⟨hmem, hsame⟩ := List.mem_filter.mp hrow
      exact mem_sortedSet.mpr (List.mem_map.mpr ⟨row, hmem, of_decide_eq_true hsame⟩)
    · rw [← hids]

theorem represents (claims : List AgentClaim) :
    Represents runtime claims (candidateRows runtime groupId (canonicalClaims runtime claims))
      (conflictSets (candidateRows runtime groupId (canonicalClaims runtime claims))) := by
  have hmem : ∀ claim, claim ∈ canonicalClaims runtime claims ↔ claim ∈ claims :=
    fun claim => List.mem_mergeSort
  refine ⟨nodup_rowKeys, fun claim hclaim => present_of_mem ((hmem claim).mpr hclaim),
    fun row hrow => ?_, fun subject => ?_, fun conflict hconflict => ?_⟩
  · have hmerges := merges_of_mem hrow
    constructor
    · intro id
      rw [hmerges.agentIds]
      exact exists_congr fun claim => and_congr_left fun _ => hmem claim
    · intro role
      rw [hmerges.agentRoles]
      exact exists_congr fun claim => and_congr_left fun _ => hmem claim
    · intro ref
      rw [hmerges.evidenceRefs]
      exact exists_congr fun claim => and_congr_left fun _ => hmem claim
    · obtain ⟨claim, hclaim, hreached⟩ := hmerges.reached
      exact ⟨claim, (hmem claim).mp hclaim, hreached⟩
    · intro claim hclaim
      exact hmerges.greatest claim ((hmem claim).mpr hclaim)
  · rw [List.mem_map]
    constructor
    · rintro ⟨conflict, hconflict, rfl⟩
      have hlength := (mem_conflictSets.mp hconflict).1
      rw [idsOfSubject, List.length_map] at hlength
      exact hlength
    · intro hlength
      let conflict : ConflictSet :=
        { stableSubjectKey := subject
          memoryIds := (idsOfSubject (candidateRows runtime groupId
            (canonicalClaims runtime claims)) subject).mergeSort fun a b => decide (a ≤ b) }
      refine ⟨conflict, mem_conflictSets.mpr ⟨?_, rfl⟩, rfl⟩
      rw [idsOfSubject, List.length_map]
      exact hlength
  · rw [(mem_conflictSets.mp hconflict).2]
    exact List.mergeSort_perm _ _

end MindscapeLocalCore.KnowledgeProjection.CandidateRows
