import MindscapeLocalCore.KnowledgeProjection.CandidateRows
import MindscapeLocalCore.KnowledgeProjection.SynthesisStore

/-!
When the plan of a handoff does not depend on the order of its claims: when claims that tie in
the sort are the same.
-/

namespace MindscapeLocalCore.KnowledgeProjection.ClaimOrder

open Library Library.Json GroupSynthesis CandidateRows SynthesisStore

variable (runtime : Runtime)

def reorder (handoff : Handoff) (claims : List AgentClaim) : Handoff :=
  { handoff with claims := claims }

def TiesAgree (claims : List AgentClaim) : Prop :=
  ∀ a ∈ claims, ∀ b ∈ claims, sortKey runtime a = sortKey runtime b → a = b

def Collides (handoff handoff' : Handoff) : Prop :=
  inputPayload runtime handoff ≠ inputPayload runtime handoff' ∧
    hashJson runtime (inputPayload runtime handoff) =
      hashJson runtime (inputPayload runtime handoff')

def OneReceipt (handoff handoff' : Handoff) : Prop :=
  ∀ s s' receipt created,
    commit runtime s handoff (plan runtime handoff) = some (s', receipt, created) →
      commit runtime s' handoff' (plan runtime handoff') = some (s', receipt, false)

variable {runtime} {claims claims' : List AgentClaim}

theorem claimLe_trans {a b c : AgentClaim} (hab : claimLe runtime a b = true)
    (hbc : claimLe runtime b c = true) : claimLe runtime a c = true :=
  decide_eq_true ((of_decide_eq_true hab).trans (of_decide_eq_true hbc))

theorem claimLe_total (a b : AgentClaim) : (claimLe runtime a b || claimLe runtime b a) = true := by
  rcases le_total (sortKey runtime a) (sortKey runtime b) with h | h
  · rw [claimLe, decide_eq_true h, Bool.true_or]
  · rw [Bool.or_comm, claimLe, decide_eq_true h, Bool.true_or]

theorem pairwise_canonicalClaims :
    (canonicalClaims runtime claims).Pairwise fun a b => claimLe runtime a b = true :=
  List.pairwise_mergeSort (fun a b c => claimLe_trans (a := a) (b := b) (c := c)) claimLe_total
    claims

theorem canonicalClaims_of_perm (hties : TiesAgree runtime claims) (hperm : claims'.Perm claims) :
    canonicalClaims runtime claims' = canonicalClaims runtime claims := by
  have hsorted : (canonicalClaims runtime claims').Perm (canonicalClaims runtime claims) :=
    (List.mergeSort_perm _ _).trans (hperm.trans (List.mergeSort_perm _ _).symm)
  refine List.Perm.eq_of_pairwise ?_ pairwise_canonicalClaims pairwise_canonicalClaims hsorted
  intro a b ha hb hab hba
  have hmem : a ∈ claims := hperm.mem_iff.mp (List.mem_mergeSort.mp ha)
  have hmem' : b ∈ claims := List.mem_mergeSort.mp hb
  exact hties a hmem b hmem' (le_antisymm (of_decide_eq_true hab) (of_decide_eq_true hba))

theorem filter_canonicalClaims (key : List String) :
    (canonicalClaims runtime claims).filter (fun claim => sortKey runtime claim = key) =
      claims.filter fun claim => sortKey runtime claim = key := by
  let ties := claims.filter fun claim => sortKey runtime claim = key
  have hkey : ∀ claim ∈ ties, sortKey runtime claim = key :=
    fun claim hclaim => of_decide_eq_true (List.mem_filter.mp hclaim).2
  have hpairwise : ties.Pairwise fun a b => claimLe runtime a b = true := by
    refine List.pairwise_of_forall_mem_list fun a ha b hb => decide_eq_true ?_
    exact le_of_eq ((hkey a ha).trans (hkey b hb).symm)
  have hsublist : ties.Sublist (canonicalClaims runtime claims) :=
    List.sublist_mergeSort (fun a b c => claimLe_trans (a := a) (b := b) (c := c)) claimLe_total
      hpairwise List.filter_sublist
  have hfiltered := hsublist.filter fun claim => sortKey runtime claim = key
  rw [List.filter_filter] at hfiltered
  simp only [Bool.and_self] at hfiltered
  refine (hfiltered.eq_of_length ?_).symm
  exact ((List.mergeSort_perm claims _).filter _).length_eq.symm

theorem exists_orders_of_tie {a b : AgentClaim} (ha : a ∈ claims) (hb : b ∈ claims)
    (htie : sortKey runtime a = sortKey runtime b) (hne : a ≠ b) :
    ∃ rest, (a :: b :: rest).Perm claims ∧ (b :: a :: rest).Perm claims ∧
      canonicalClaims runtime (a :: b :: rest) ≠ canonicalClaims runtime (b :: a :: rest) := by
  have hrest : b ∈ claims.erase a := (List.mem_erase_of_ne (Ne.symm hne)).mpr hb
  have hperm : (a :: b :: (claims.erase a).erase b).Perm claims :=
    ((List.perm_cons_erase hrest).symm.cons a).trans (List.perm_cons_erase ha).symm
  refine ⟨(claims.erase a).erase b, hperm, (List.Perm.swap a b _).trans hperm, fun hsame => ?_⟩
  have hheads : ∀ c d : AgentClaim, sortKey runtime c = sortKey runtime a →
      ((canonicalClaims runtime (c :: d :: (claims.erase a).erase b)).filter
        fun claim => sortKey runtime claim = sortKey runtime a).head? = some c := by
    intro c d hc
    rw [filter_canonicalClaims, List.filter_cons, if_pos (decide_eq_true hc), List.head?_cons]
  have hheads' := hheads a b rfl
  rw [hsame, hheads b a htie.symm] at hheads'
  exact hne (Option.some.inj hheads').symm

theorem document_injective {a b : AgentClaim} (h : a.document = b.document) : a = b := by
  obtain ⟨aid, arole, asubject, atitle, aclaim, asummary, aconfidence, arefs⟩ := a
  obtain ⟨bid, brole, bsubject, btitle, bclaim, bsummary, bconfidence, brefs⟩ := b
  simp only [AgentClaim.document, Json.obj.injEq, List.cons.injEq, Prod.mk.injEq, Json.str.injEq,
    Json.num.injEq, Json.arr.injEq, true_and, and_true] at h
  obtain ⟨rfl, rfl, rfl, rfl, hrefs, rfl, rfl, rfl⟩ := h
  obtain rfl := List.map_injective_iff.mpr (fun _ _ => Json.str.inj) hrefs
  rfl

theorem canonicalClaims_of_payload {handoff handoff' : Handoff}
    (h : inputPayload runtime handoff = inputPayload runtime handoff') :
    canonicalClaims runtime handoff.claims = canonicalClaims runtime handoff'.claims := by
  simp only [inputPayload, Json.obj.injEq, List.cons.injEq, Prod.mk.injEq, Json.arr.injEq,
    true_and] at h
  exact List.map_injective_iff.mpr (fun _ _ => document_injective) h.1

theorem plan_congr {handoff : Handoff}
    (h : canonicalClaims runtime claims = canonicalClaims runtime handoff.claims) :
    inputPayload runtime (reorder handoff claims) = inputPayload runtime handoff ∧
      plan runtime (reorder handoff claims) = plan runtime handoff := by
  have hpayload : inputPayload runtime (reorder handoff claims) = inputPayload runtime handoff := by
    rw [inputPayload, inputPayload, reorder, h]
  refine ⟨hpayload, ?_⟩
  rw [plan, plan, hpayload]
  simp only [reorder, h]
  rfl

theorem plan_eq_iff {handoff : Handoff} :
    (∀ claims', claims'.Perm handoff.claims →
        plan runtime (reorder handoff claims') = plan runtime handoff ∧
          ¬ Collides runtime (reorder handoff claims') handoff) ↔
      TiesAgree runtime handoff.claims := by
  constructor
  · intro h a ha b hb htie
    by_contra hne
    obtain ⟨rest, hperm, hperm', hcanonical⟩ := exists_orders_of_tie ha hb htie hne
    have hsame : ∀ claims', claims'.Perm handoff.claims →
        canonicalClaims runtime claims' = canonicalClaims runtime handoff.claims := by
      intro claims' hclaims
      obtain ⟨hplan, hcollides⟩ := h claims' hclaims
      have hhash : hashJson runtime (inputPayload runtime (reorder handoff claims')) =
          hashJson runtime (inputPayload runtime handoff) := congrArg Plan.inputHash hplan
      have hpayload : inputPayload runtime (reorder handoff claims') =
          inputPayload runtime handoff := by
        by_contra hpayload
        exact hcollides ⟨hpayload, hhash⟩
      exact canonicalClaims_of_payload hpayload
    exact hcanonical ((hsame _ hperm).trans (hsame _ hperm').symm)
  · intro hties claims' hperm
    obtain ⟨hpayload, hplan⟩ := plan_congr (canonicalClaims_of_perm hties hperm)
    exact ⟨hplan, fun hcollides => hcollides.1 hpayload⟩

section Commits

variable {s s' : Store} {handoff : Handoff} {p : Plan}

theorem writeCandidates_receipts (h : writeCandidates runtime s handoff p = some s') :
    s'.snapshots = s.snapshots ∧ s'.manifests = s.manifests ∧ s'.receipts = s.receipts ∧
      s'.reviews = s.reviews := by
  simp only [writeCandidates, Option.bind_eq_bind, Option.bind_eq_some_iff] at h
  obtain ⟨items, -, versions, -, links, -, edges, -, hs⟩ := h
  obtain rfl := Option.some.inj hs
  exact ⟨rfl, rfl, rfl, rfl⟩

theorem insert_manifest_again {row : Manifest} {rows rows' : List Manifest}
    (h : UniqueInsert.insertOnConflict sameProjection (sameOn Manifest.id) id row rows =
      some rows') :
    UniqueInsert.insertOnConflict sameProjection (sameOn Manifest.id) id row rows' =
      some rows' := by
  have hsame : ∀ rows : List Manifest, UniqueInsert.resolved sameProjection id row rows = rows :=
    fun rows => UniqueInsert.resolved_eq_self fun _ _ _ => rfl
  have hpresent : ∃ old ∈ rows', sameProjection row old := by
    rcases UniqueInsert.insertOnConflict_eq_some.mp h with ⟨hconflict, rfl⟩ | ⟨-, -, rfl⟩
    · rw [hsame]
      exact hconflict
    · exact ⟨row, List.mem_append_right _ (List.mem_singleton_self row), rfl⟩
  rw [UniqueInsert.insertOnConflict, if_pos hpresent, hsame]

theorem find_of_recordReceipt {receipt : Receipt} {created : Bool}
    (h : recordReceipt runtime s handoff p = some (s', receipt, created)) :
    s'.snapshots = s.snapshots ∧ s'.manifests = s.manifests ∧
      findReceipt s'.receipts (receiptRow handoff p) = some receipt := by
  rw [recordReceipt] at h
  split at h
  · rename_i existing hexisting
    obtain ⟨rfl, rfl, -⟩ : s = s' ∧ existing = receipt ∧ false = created := by
      simpa only [Prod.mk.injEq] using Option.some.inj h
    exact ⟨rfl, rfl, hexisting⟩
  · rename_i hnone
    simp only [Option.bind_eq_bind, Option.bind_eq_some_iff] at h
    obtain ⟨receipts, hreceipts, -, -, written, hwrite, hs⟩ := h
    obtain ⟨rfl, rfl, -⟩ : written = s' ∧ receiptRow handoff p = receipt ∧ true = created := by
      simpa only [Prod.mk.injEq] using Option.some.inj hs
    obtain ⟨hsnapshots, hmanifests, hkept, -⟩ := writeCandidates_receipts hwrite
    refine ⟨hsnapshots, hmanifests, ?_⟩
    obtain ⟨-, rfl⟩ := UniqueInsert.insertRow_eq_some.mp hreceipts
    rw [hkept, findReceipt, List.find?_append, ← findReceipt, hnone, Option.none_or]
    exact List.find?_cons_of_pos (decide_eq_true rfl)

theorem commit_again {claims' : List AgentClaim} {receipt : Receipt} {created : Bool}
    (hlength : claims'.length = handoff.claims.length)
    (h : commit runtime s handoff p = some (s', receipt, created)) :
    commit runtime s' (reorder handoff claims') p = some (s', receipt, false) := by
  have hrow : receiptRow (reorder handoff claims') p = receiptRow handoff p := by
    rw [receiptRow, receiptRow, reorder, hlength]
  rw [commit] at h
  split at h
  · rename_i hsnapshot
    obtain ⟨manifests, hinsert, hrecord⟩ := Option.bind_eq_some_iff.mp h
    obtain ⟨hsnapshots, hmanifests, hfind⟩ := find_of_recordReceipt hrecord
    have hsnapshot' : s'.snapshots (reorder handoff claims').topologySnapshotId =
        some (reorder handoff claims').groupId := by
      rw [hsnapshots]
      exact hsnapshot
    have hagain : UniqueInsert.insertOnConflict sameProjection (sameOn Manifest.id) id
        (manifestRow (reorder handoff claims') p) s'.manifests = some s'.manifests := by
      rw [hmanifests]
      exact insert_manifest_again hinsert
    rw [commit, if_pos hsnapshot', hagain]
    show recordReceipt runtime s' (reorder handoff claims') p = _
    rw [recordReceipt, hrow, hfind]
  · cases h

end Commits

/-- A plan represents its claims, and it depends on their order, hash collisions apart, exactly
when different claims tie; where none do, handoffs that differ in the order of the claims get
one receipt. -/
theorem plan_of_order_iff (runtime : Runtime) (handoff : Handoff) :
    Represents runtime handoff.claims (plan runtime handoff).candidateRows
        (plan runtime handoff).conflictSets ∧
      ((∀ claims', claims'.Perm handoff.claims →
          (plan runtime (reorder handoff claims') = plan runtime handoff ∧
            OneReceipt runtime handoff (reorder handoff claims')) ∧
            ¬ Collides runtime (reorder handoff claims') handoff) ↔
        TiesAgree runtime handoff.claims) := by
  refine ⟨represents handoff.claims, ?_⟩
  rw [← plan_eq_iff]
  refine forall₂_congr fun claims' hperm => and_congr_left fun _ => ?_
  refine and_iff_left_of_imp fun hplan s s' receipt created hcommit => ?_
  rw [hplan]
  exact commit_again hperm.length_eq hcommit

theorem titles_of_tie (handoff : Handoff) {a b : AgentClaim}
    (htie : sortKey runtime a = sortKey runtime b) :
    (plan runtime (reorder handoff [a, b])).candidateRows.map (fun row => row.variant.title) =
      [a.title] := by
  have hcanonical : canonicalClaims runtime [a, b] = [a, b] := by
    refine List.mergeSort_of_pairwise (List.pairwise_pair.mpr ?_)
    exact decide_eq_true (le_of_eq htie)
  have hkey : variantKey runtime b = variantKey runtime a := by
    obtain ⟨hsubject, htext, -⟩ : a.stableSubjectKey = b.stableSubjectKey ∧
        normalizeClaim runtime a.claim = normalizeClaim runtime b.claim ∧ a.agentId = b.agentId := by
      simpa only [sortKey, List.cons.injEq, and_true] using htie
    rw [variantKey, variantKey, hsubject, htext]
  have hvariants : [a, b].foldl (addClaim runtime) [] =
      [(variantKey runtime a, ((newVariant runtime a).add a).add b)] := by
    have hfirst : addClaim runtime [] a =
        [(variantKey runtime a, (newVariant runtime a).add a)] := rfl
    rw [List.foldl_cons, List.foldl_cons, List.foldl_nil, hfirst, addClaim, hkey]
    simp only [ItemDict.getItem, ItemDict.setItem, List.lookup_cons_self, Option.getD_some,
      List.map_cons, List.map_nil, List.mem_singleton, if_true]
  have hrows : (plan runtime (reorder handoff [a, b])).candidateRows =
      [candidateRow runtime handoff.groupId (((newVariant runtime a).add a).add b)] := by
    show candidateRows runtime handoff.groupId (canonicalClaims runtime [a, b]) = _
    rw [hcanonical, candidateRows, hvariants, List.mergeSort_singleton]
    rfl
  rw [hrows]
  rfl

section Sample

def sampleHandoff : Handoff where
  runId := "run"
  groupId := "group"
  topologySnapshotId := "snapshot"
  policyRevision := "policy"
  claims := [sampleClaim "first", sampleClaim "second"]

/-- The two orders of the claims have different plans. -/
theorem plan_differs :
    [sampleClaim "second", sampleClaim "first"].Perm sampleHandoff.claims ∧
      plan sampleRuntime (reorder sampleHandoff [sampleClaim "second", sampleClaim "first"]) ≠
        plan sampleRuntime sampleHandoff := by
  refine ⟨List.Perm.swap _ _ _, fun hplan => ?_⟩
  have htitles := congrArg
    (fun plan : Plan => plan.candidateRows.map fun row => row.variant.title) hplan
  have hsame : plan sampleRuntime sampleHandoff =
      plan sampleRuntime (reorder sampleHandoff [sampleClaim "first", sampleClaim "second"]) := rfl
  rw [hsame] at htitles
  have htie : sortKey sampleRuntime (sampleClaim "second") =
      sortKey sampleRuntime (sampleClaim "first") := rfl
  rw [titles_of_tie sampleHandoff htie, titles_of_tie sampleHandoff htie.symm] at htitles
  exact absurd (List.head_eq_of_cons_eq htitles) (by decide)

end Sample

end MindscapeLocalCore.KnowledgeProjection.ClaimOrder
