import Mathlib.Algebra.Order.Ring.Rat
import Mathlib.Tactic.NormNum
import MindscapeLocalCore.DurableState.ReleasePolicy

namespace MindscapeLocalCore.DurableState.ReleasePolicyRuns

open Library.AppendTable Library.Guarded Library.Table ReleasePolicy RuntimeOwnerReceipts

variable {v : Verifier}

structure AppliedCas (v : Verifier) (row : DurableReleasePolicy)
    (payload : ReleasePolicyCas) : Prop where
  receipt : row.ownerReceipt.payload = .durableReleasePolicyCas payload
  verified : ∃ registry expectedRegistrySha256 checkedAt decision,
    verifyOwnerDecision v row.ownerReceipt registry expectedRegistrySha256 checkedAt =
      .ok decision
  key : row.key = (payload.workspaceId, payload.workflowKind)
  revision : row.revision = payload.targetRevision
  mode : row.mode = payload.toMode
  policy : row.policy = payload.policy
  policyHash : row.policyHash = payload.policyHash

structure Follows (v : Verifier) (before : List DurableReleasePolicy)
    (row : DurableReleasePolicy) : Prop where
  revision : row.revision = before.length + 1
  supersedes : row.supersedesRevision =
    if before = [] then none else some (before.length : ℤ)
  transition : (before.getLast?.map (·.mode), row.mode) ∈ policyTransitions
  applied : ∃ payload, AppliedCas v row payload ∧
    payload.fromMode = before.getLast?.map (·.mode)

variable {rows before : List DurableReleasePolicy} {row row' : DurableReleasePolicy}

theorem key_of_mem_select {k : String × WorkflowKind}
    (h : row ∈ select DurableReleasePolicy.key k rows) : row.key = k :=
  (mem_select.mp h).2

theorem exists_prefix_of_mem (h : Chain (Follows v) rows) (hmem : row ∈ rows) :
    ∃ before, before ++ [row] <+: rows ∧ Follows v before row := by
  obtain ⟨before, rest, rfl⟩ := List.append_of_mem hmem
  refine ⟨before, ⟨rest, by simp⟩, follows_of_chain h⟩

theorem revision_le_length (h : Chain (Follows v) rows) (hmem : row ∈ rows) :
    1 ≤ row.revision ∧ row.revision ≤ rows.length := by
  obtain ⟨before, hleads, hfollows⟩ := exists_prefix_of_mem h hmem
  have hlength := hleads.length_le
  have hrevision := hfollows.revision
  simp only [List.length_append, List.length_singleton] at hlength
  omega

/-! ### The read -/

theorem verified_eq_ok {receipt : OwnerReceipt} {call : CasCall}
    {decision : VerifiedOwnerDecision} (h : verified v receipt call = .ok decision) :
    verifyOwnerDecision v receipt call.trustedRegistry call.expectedRegistrySha256 call.now =
      .ok decision := by
  unfold verified at h
  split at h
  · rename_i hdecision
    rw [hdecision]
    exact congrArg Except.ok (Except.ok.inj h)
  · exact absurd h (by rintro ⟨⟩)

theorem payload_of_relationship {cas canary : VerifiedOwnerDecision}
    {payload : ReleasePolicyCas}
    (h : validateReceiptRelationship cas canary = .ok payload) :
    cas.receipt.payload = .durableReleasePolicyCas payload := by
  unfold validateReceiptRelationship at h
  split at h
  · rename_i hpayload _
    simp only [bind_eq_ok, exists_unit] at h
    obtain ⟨-, -, -, -, hresult⟩ := h
    rw [hpayload, Except.ok.inj hresult]
  · exact absurd h (by rintro ⟨⟩)
  · exact absurd h (by rintro ⟨⟩)

theorem current_of_compare {payload : ReleasePolicyCas}
    {current : Option DurableReleasePolicy} (h : compareCurrent payload current = .ok ()) :
    (current.map (·.revision)).getD 0 = payload.expectedRevision ∧
      current.map (·.mode) = payload.fromMode := by
  simpa only [compareCurrent, bind_eq_ok, require_eq_ok, exists_unit] using h

theorem before_of_readCurrent {all seen : List DurableReleasePolicy} {workspaceId : String}
    {workflowKind : WorkflowKind}
    (hchain : Chain (Follows v)
      (select DurableReleasePolicy.key (workspaceId, workflowKind) all))
    (hseen : ∀ row ∈ seen, row ∈ all) :
    ∃ before, before <+: select DurableReleasePolicy.key (workspaceId, workflowKind) all ∧
      before.getLast? = readCurrent seen workspaceId workflowKind ∧
      ((readCurrent seen workspaceId workflowKind).map (·.revision)).getD 0 =
        before.length := by
  cases hcurrent : readCurrent seen workspaceId workflowKind with
  | none => exact ⟨[], List.nil_prefix, rfl, rfl⟩
  | some current =>
      obtain ⟨hmem, hkey⟩ := mem_select.mp (List.argmax_mem hcurrent)
      have hall := mem_select.mpr ⟨hseen current hmem, hkey⟩
      obtain ⟨before, hleads, hfollows⟩ := exists_prefix_of_mem hchain hall
      refine ⟨before ++ [current], hleads, by simp, ?_⟩
      change current.revision = _
      rw [hfollows.revision]
      simp

theorem follows_of_prepare {call : CasCall} {all seen : List DurableReleasePolicy}
    (h : prepare v call seen = .ok row)
    (hchain : Chain (Follows v) (select DurableReleasePolicy.key row.key all))
    (hseen : ∀ row ∈ seen, row ∈ all) :
    ∃ before, before <+: select DurableReleasePolicy.key row.key all ∧
      Follows v before row := by
  simp only [prepare, bind_eq_ok, exists_unit] at h
  obtain ⟨cas, hcas, canary, -, payload, hpayload, hcompare, hrow⟩ := h
  obtain rfl := Except.ok.inj hrow
  have hcas := verified_eq_ok hcas
  have hpayload := payload_of_relationship hpayload
  obtain ⟨hreceipt, hvalid⟩ := casValid_of_verified v hcas
  rw [← hreceipt] at hcas hvalid
  have hvalid := hvalid payload hpayload
  obtain ⟨hrevision, hmode⟩ := current_of_compare hcompare
  obtain ⟨before, hleads, hlast, hlength⟩ := before_of_readCurrent hchain hseen
  have hexpected : payload.expectedRevision = before.length := hrevision.symm.trans hlength
  have hfrom : payload.fromMode = before.getLast?.map (·.mode) := by
    rw [hlast]
    exact hmode.symm
  refine ⟨before, hleads, ?_, ?_, ?_, payload, ?_, hfrom⟩
  · change payload.targetRevision = _
    rw [hvalid.contiguous, hexpected]
  · change (if payload.expectedRevision > 0 then _ else _) = _
    rw [hexpected]
    rcases before.eq_nil_or_concat with rfl | ⟨front, last, rfl⟩
    · rfl
    · rw [if_pos (by simp), if_neg (by simp)]
  · change (_, payload.toMode) ∈ _
    rw [← hfrom]
    exact hvalid.transition
  · exact ⟨hpayload, ⟨_, _, _, _, hcas⟩, rfl, rfl, rfl, rfl, rfl⟩

/-! ### The invariant -/

/-- The rows of every policy form one chain, and every open insert goes on from a
part of it. -/
structure Contiguous {τ : Type} (v : Verifier) (db : Database τ) : Prop where
  linear : Linear DurableReleasePolicy.key (Follows v) db.rows
  inserting : ∀ {t row}, db.inserting t = some row →
    ∃ before, before <+: select DurableReleasePolicy.key row.key (db.rows.visible t) ∧
      Follows v before row

variable {τ : Type} {db db' : Database τ}

theorem contiguous_empty : Contiguous v (Database.empty : Database τ) where
  linear := linear_empty
  inserting h := absurd h (Option.some_ne_none _).symm

theorem eq_of_prefix_of_absent (hchain : Chain (Follows v) rows)
    (hkey : ∀ row' ∈ rows, row'.key = row.key) (hleads : before <+: rows)
    (hfollows : Follows v before row)
    (habsent : ∀ row' ∈ rows.drop before.length, ¬ SamePrimaryKey row' row) :
    before = rows := by
  obtain ⟨rest, rfl⟩ := hleads
  cases rest with
  | nil => exact (List.append_nil before).symm
  | cons next rest =>
      exfalso
      have hnext : Follows v before next := follows_of_chain hchain
      refine habsent next (by simp) ⟨hkey next (by simp), ?_⟩
      rw [hnext.revision, hfollows.revision]

variable {t t' : τ}

theorem follows_of_inserted (h : Contiguous v db) (hrow : db.inserting t = some row)
    (hvisible : ∀ row' ∈ db.rows.visible t, ¬ SamePrimaryKey row' row)
    (hpending : ∀ t', ∀ row' ∈ db.rows.pending t', ¬ SamePrimaryKey row' row) :
    Follows v (select DurableReleasePolicy.key row.key (db.rows.visible t)) row ∧
      ∀ t', t' ≠ t → select DurableReleasePolicy.key row.key (db.rows.pending t') = [] := by
  obtain ⟨before, hleads, hfollows⟩ := h.inserting hrow
  have hbefore := eq_of_prefix_of_absent (h.linear.chain row.key t)
    (fun _ hmem => key_of_mem_select hmem) hleads hfollows
    (fun row' hmem => hvisible row' (mem_select.mp (List.mem_of_mem_drop hmem)).1)
  subst hbefore
  refine ⟨hfollows, fun t' hne => ?_⟩
  by_contra hbusy
  have hseen := visible_of_pending h.linear hne hbusy
  have hchain := h.linear.chain row.key t'
  rw [select_visible, ← hseen] at hchain
  have hall := eq_of_prefix_of_absent hchain ?_ (List.prefix_append _ _) hfollows ?_
  · exact hbusy (List.append_right_eq_self.mp hall.symm)
  · intro row' hmem
    rcases List.mem_append.mp hmem with hmem | hmem <;> exact key_of_mem_select hmem
  · intro row' hmem
    rw [List.drop_left] at hmem
    exact hpending t' row' (mem_select.mp hmem).1

theorem contiguous_of_open (hlinear : Linear DurableReleasePolicy.key (Follows v) db'.rows)
    (hopen : ∀ {t row}, db'.inserting t = some row →
      db.inserting t = some row ∧ ∀ before,
        before <+: select DurableReleasePolicy.key row.key (db.rows.visible t) →
          before <+: select DurableReleasePolicy.key row.key (db'.rows.visible t))
    (h : Contiguous v db) : Contiguous v db' where
  linear := hlinear
  inserting hrow := by
    obtain ⟨hbefore, hgrows⟩ := hopen hrow
    obtain ⟨before, hleads, hfollows⟩ := h.inserting hbefore
    exact ⟨before, hgrows before hleads, hfollows⟩

theorem contiguous_aborted {aborted : τ → Bool} (h : Contiguous v db) :
    Contiguous v { db with aborted := aborted } := ⟨h.linear, h.inserting⟩

variable [DecidableEq τ]

theorem inserting_open {row : Option DurableReleasePolicy} :
    (db.open t row).inserting t' = if t' = t then row else db.inserting t' := by
  by_cases ht : t' = t
  · subst ht
    simp [Database.open]
  · simp [Database.open, ht]

theorem contiguous_closed (h : Contiguous v db) : Contiguous v (db.open t none) := by
  have hlinear : Linear DurableReleasePolicy.key (Follows v) (db.open t none).rows := h.linear
  apply contiguous_of_open hlinear _ h
  intro t' row hrow
  rw [inserting_open] at hrow
  split at hrow
  · exact absurd hrow.symm (Option.some_ne_none _)
  · exact ⟨hrow, fun _ hleads => hleads⟩

theorem contiguous_prepared {call : CasCall} {seen : List DurableReleasePolicy}
    (h : Contiguous v db) (hseen : seen <+: db.rows.committed)
    (hrow : prepare v call (seen ++ db.rows.pending t) = .ok row) :
    Contiguous v (db.open t (some row)) where
  linear := h.linear
  inserting {t' row'} hopen := by
    rw [inserting_open] at hopen
    split at hopen
    · rename_i ht
      obtain rfl := Option.some.inj hopen
      subst ht
      refine follows_of_prepare hrow (h.linear.chain _ _) fun row' hmem => ?_
      rcases List.mem_append.mp hmem with hmem | hmem
      · exact List.mem_append_left _ (hseen.subset hmem)
      · exact List.mem_append_right _ hmem
    · exact h.inserting hopen

theorem contiguous_inserted (h : Contiguous v db) (hrow : db.inserting t = some row)
    (hvisible : ∀ row' ∈ db.rows.visible t, ¬ SamePrimaryKey row' row)
    (hpending : ∀ t', ∀ row' ∈ db.rows.pending t', ¬ SamePrimaryKey row' row) :
    Contiguous v { db.open t none with rows := db.rows.insert t row } := by
  obtain ⟨hfollows, hfree⟩ := follows_of_inserted h hrow hvisible hpending
  apply contiguous_of_open (linear_insert h.linear hfollows hfree) _ h
  intro t' row' hopen
  change (db.open t none).inserting t' = _ at hopen
  rw [inserting_open] at hopen
  split at hopen
  · exact absurd hopen.symm (Option.some_ne_none _)
  · rename_i hne
    refine ⟨hopen, fun before hleads => ?_⟩
    have hsame : (db.rows.insert t row).visible t' = db.rows.visible t' := by
      simp [Rows.visible, Rows.insert, Function.update_of_ne hne]
    change before <+: select _ _ ((db.rows.insert t row).visible t')
    rwa [hsame]

theorem contiguous_commit (h : Contiguous v db) :
    Contiguous v { db with rows := db.rows.commit t } := by
  apply contiguous_of_open (linear_commit h.linear) _ h
  intro t' row hopen
  refine ⟨hopen, fun before hleads => ?_⟩
  change before <+: select _ _ ((db.rows.commit t).visible t')
  rcases visible_commit h.linear row.key t t' with
    hsame | ⟨hnone, hgrown⟩
  · rwa [hsame]
  · rw [hgrown, select_visible]
    rw [select_visible, hnone, List.append_nil] at hleads
    exact hleads.trans (List.prefix_append _ _)

theorem contiguous_rollback (h : Contiguous v db) (hidle : db.inserting t = none) :
    Contiguous v { db with rows := db.rows.rollback t } := by
  apply contiguous_of_open (linear_rollback h.linear) _ h
  intro t' row hopen
  refine ⟨hopen, fun before hleads => ?_⟩
  change before <+: select _ _ ((db.rows.rollback t).visible t')
  have hne : t' ≠ t := by
    rintro rfl
    change db.inserting t' = _ at hopen
    rw [hidle] at hopen
    exact Option.some_ne_none _ hopen.symm
  rw [select_visible, pending_rollback, if_neg hne]
  change before <+: select _ _ db.rows.committed ++ _
  rwa [← select_visible]

theorem contiguous_step {event : Event τ} {outcome : Outcome}
    (h : Contiguous v db) (hs : Step v db event outcome db') : Contiguous v db' := by
  cases hs with
  | rejected => exact h
  | prepared _ _ hseen hrow => exact contiguous_prepared h hseen hrow
  | readFailed => exact contiguous_aborted (contiguous_closed h)
  | conflicted => exact contiguous_closed h
  | inserted hrow hvisible hpending =>
      exact contiguous_inserted h hrow (fun row' hmem => (hvisible row' hmem).1)
        (fun t' row' hmem => (hpending t' row' hmem).1)
  | insertFailed => exact contiguous_aborted (contiguous_closed h)
  | committed => exact contiguous_commit h
  | commitAborted hidle => exact contiguous_aborted (contiguous_rollback h hidle)
  | @rolledBack t =>
      have hidle : (db.open t none).inserting t = none := by rw [inserting_open, if_pos rfl]
      exact contiguous_aborted (contiguous_rollback (contiguous_closed h) hidle)

theorem contiguous_of_reachable (h : Reachable v db) : Contiguous v db := by
  induction h with
  | empty => exact contiguous_empty
  | step _ hs ih => exact contiguous_step ih hs

theorem policies_of_reachable (h : Reachable v db) (k : String × WorkflowKind) :
    Chain (Follows v) (select DurableReleasePolicy.key k db.rows.committed) := by
  have hlinear := (contiguous_of_reachable h).linear
  cases h with
  | empty => exact chain_nil
  | @step _ event _ _ _ hs =>
      rcases event with ⟨t, _⟩ | t | t | t <;> exact committed_chain hlinear k t

/-! ### The stored rows -/

theorem revisions_of_chain (h : Chain (Follows v) rows) :
    rows.map (·.revision) = (List.range rows.length).map fun n : ℕ => (n : ℤ) + 1 := by
  induction rows using List.reverseRecOn with
  | nil => rfl
  | append_singleton rows last ih =>
      obtain ⟨hrows, hlast⟩ := chain_append_singleton.mp h
      rw [List.map_append, ih hrows, List.length_append, List.length_singleton,
        List.range_succ, List.map_append]
      exact congrArg _ (congrArg (fun revision => [revision]) hlast.revision)

theorem eq_of_receipt {before' : List DurableReleasePolicy} (h : Follows v before row)
    (h' : Follows v before' row') (hreceipt : row.ownerReceipt = row'.ownerReceipt) :
    row.key = row'.key ∧ row.revision = row'.revision := by
  obtain ⟨payload, happlied, -⟩ := h.applied
  obtain ⟨payload', happlied', -⟩ := h'.applied
  have hpayload := happlied.receipt
  rw [hreceipt, happlied'.receipt] at hpayload
  obtain rfl := Payload.durableReleasePolicyCas.inj hpayload
  exact ⟨happlied.key.trans happlied'.key.symm, happlied.revision.trans happlied'.revision.symm⟩

theorem receipts_nodup (h : ∀ k, Chain (Follows v) (select DurableReleasePolicy.key k rows)) :
    (rows.map (·.ownerReceipt)).Nodup := by
  induction rows using List.reverseRecOn with
  | nil => exact List.nodup_nil
  | append_singleton rows last ih =>
      have hleads : ∀ k, Chain (Follows v) (select DurableReleasePolicy.key k rows) := by
        intro k
        apply chain_of_prefix (h k)
        rw [select_append]
        exact List.prefix_append _ _
      have hchain := h last.key
      rw [select_append_singleton, if_pos rfl, chain_append_singleton] at hchain
      have hnew : last.ownerReceipt ∉ rows.map (·.ownerReceipt) := by
        intro hmem
        obtain ⟨row, hmem, hreceipt⟩ := List.mem_map.mp hmem
        obtain ⟨_, -, hrow⟩ :=
          exists_prefix_of_mem (hleads row.key) (mem_select.mpr ⟨hmem, rfl⟩)
        obtain ⟨hkey, hrevision⟩ := eq_of_receipt hrow hchain.2 hreceipt
        have hle := revision_le_length hchain.1 (mem_select.mpr ⟨hmem, hkey⟩)
        have hlast := hchain.2.revision
        omega
      rw [List.map_append]
      exact List.Nodup.append (ih hleads) (List.nodup_singleton _)
        (List.disjoint_singleton.mpr hnew)

theorem rows_of_raised {event : Event τ} {error : CasError}
    (hs : Step v db event (.raised error) db') : db'.rows = db.rows := by
  cases hs <;> rfl

theorem committed_prefix {event : Event τ} {outcome : Outcome}
    (hs : Step v db event outcome db') : db.rows.committed <+: db'.rows.committed := by
  cases hs with
  | committed => exact List.prefix_append _ _
  | _ => exact List.prefix_rfl

/-- Over every run the rows of a policy are its revisions from one on, each applied
from a receipt that was made for it. -/
theorem release_policies_linear (h : Reachable v db) :
    (∀ k, (select DurableReleasePolicy.key k db.rows.committed).map (·.revision) =
        (List.range (select DurableReleasePolicy.key k db.rows.committed).length).map
          fun n : ℕ => (n : ℤ) + 1) ∧
      (∀ k before row after,
        select DurableReleasePolicy.key k db.rows.committed = before ++ row :: after →
          Follows v before row) ∧
      (db.rows.committed.map (·.ownerReceipt)).Nodup ∧
      (∀ event error db', Step v db event (.raised error) db' → db'.rows = db.rows) ∧
      ∀ event outcome db', Step v db event outcome db' →
        db.rows.committed <+: db'.rows.committed := by
  have hchain := policies_of_reachable h
  exact ⟨fun k => revisions_of_chain (hchain k),
    fun k before row after hrows => follows_of_chain (hrows ▸ hchain k),
    receipts_nodup hchain, fun _ _ _ hs => rows_of_raised hs,
    fun _ _ _ hs => committed_prefix hs⟩

/-! ### A first policy -/

/-- A verifier that takes every digest for `"d"` and every signature. -/
def trusting : Verifier where
  timestamp value := if value = "start" then some 0 else some 2
  registrySha256 _ := some "d"
  payloadSha256 _ := some "d"
  policySha256 _ := some "d"
  receiptSha256 _ := some "d"
  fingerprint _ := some "d"
  signatureValid _ _ := true

def shadowCanary : CanaryAdmission where
  workspaceId := "w"
  authorizationScopes := ["durable_workflow:shadow"]
  pilotCohortHash := "d"
  windowStartsAt := "start"
  windowEndsAt := "end"
  backoutOwnerId := "owner"
  candidateAttestations := []
  fixtureDescriptors := [("f1", "h1"), ("f2", "h2")]

def ownerReceipt (receiptId : String) (payload : Payload) : OwnerReceipt where
  receiptId
  ownerId := "owner"
  ownerRole := "role"
  authorityRef := "authority"
  issuedAt := "start"
  expiresAt := "end"
  revocationRef := "revocation"
  payload
  payloadSha256 := "d"
  keyId := "k"
  publicKeyFingerprintSha256 := "d"
  signature := "s"

def shadowCas : ReleasePolicyCas where
  workspaceId := "w"
  workflowKind := .execution
  expectedRevision := 0
  targetRevision := 1
  fromMode := none
  toMode := .shadow
  policy :=
    { workspaceId := "w"
      workflowKind := .execution
      mode := .shadow
      canaryReceiptId := "canary"
      canaryReceiptSha256 := "d"
      canary := shadowCanary }
  policyHash := "d"
  casAuthorityId := "owner"

def ownerKey : TrustedKey where
  keyId := "k"
  ownerId := "owner"
  ownerRole := "role"
  publicKeyBase64 := "key"
  fingerprintSha256 := "d"
  authorizedReceiptTypes := ["exact_canary_admission", "durable_release_policy_cas"]
  authorityRefs := ["authority"]
  notBefore := "start"
  notAfter := "end"
  revokedAt := none
  revocationRef := "revocation"

def shadowCall : CasCall where
  casReceipt := ownerReceipt "cas" (.durableReleasePolicyCas shadowCas)
  canaryReceipt := ownerReceipt "canary" (.exactCanaryAdmission shadowCanary)
  trustedRegistry := { registryRevision := "1", keys := [ownerKey] }
  expectedRegistrySha256 := "d"
  now := 1

def shadowDecision (receipt : OwnerReceipt) : VerifiedOwnerDecision where
  receipt
  receiptSha256 := "d"
  registryRevision := "1"
  registrySha256 := "d"

def shadowRow : DurableReleasePolicy :=
  insertParams shadowCas (shadowDecision shadowCall.casReceipt)
    (shadowDecision shadowCall.canaryReceipt)

theorem registry_accepted : validateRegistry trusting shadowCall.trustedRegistry = .ok () := by
  have hkey : validateKey trusting ownerKey = .ok () := by
    simp only [validateKey, bind_eq_ok, require_eq_ok, exists_unit]
    exact ⟨0, rfl, 2, rfl, by norm_num, rfl⟩
  have hkeys : shadowCall.trustedRegistry.keys.forM (validateKey trusting) = .ok () := by
    change (validateKey trusting ownerKey >>= fun _ => pure ()) = _
    rw [hkey]
    rfl
  simp only [validateRegistry, bind_eq_ok, require_eq_ok, exists_unit]
  exact ⟨by decide, by decide, hkeys⟩

theorem canary_accepted : validatePayload trusting shadowCall.canaryReceipt 1 = .ok () := by
  change validateCanary trusting shadowCanary 1 = .ok ()
  simp only [validateCanary, bind_eq_ok, require_eq_ok, exists_unit]
  exact ⟨0, rfl, 2, rfl, by norm_num, by norm_num, by norm_num, by decide, by decide, by decide⟩

theorem shadow_verified {receipt : OwnerReceipt}
    (hpayload : validatePayload trusting receipt 1 = .ok ())
    (hkey : trustedKey receipt shadowCall.trustedRegistry = .ok ownerKey)
    (hissued : receipt.issuedAt = "start") (hexpires : receipt.expiresAt = "end")
    (hdigest : receipt.payloadSha256 = "d") :
    verified trusting receipt shadowCall = .ok (shadowDecision receipt) := by
  have hdecision : verifyOwnerDecision trusting receipt shadowCall.trustedRegistry
      shadowCall.expectedRegistrySha256 shadowCall.now = .ok (shadowDecision receipt) := by
    simp only [verifyOwnerDecision, bind_eq_ok, require_eq_ok, exists_unit]
    refine ⟨"d", rfl, rfl, registry_accepted, hpayload, "d", rfl, hdigest.symm,
      0, hissued ▸ rfl, 2, hexpires ▸ rfl, ?_, ?_, ?_, ownerKey, hkey, 0, rfl, 2, rfl, ?_, ?_,
      rfl, rfl, rfl, "d", rfl, rfl⟩
    all_goals norm_num [maxFutureSkew, shadowCall]
  unfold verified
  rw [hdecision]

theorem shadow_prepared : prepare trusting shadowCall [] = .ok shadowRow := by
  have hcas := @shadow_verified shadowCall.casReceipt (by decide) (by decide) rfl rfl rfl
  have hcanary :=
    @shadow_verified shadowCall.canaryReceipt canary_accepted (by decide) rfl rfl rfl
  unfold prepare
  rw [hcas, hcanary]
  rfl

def shadowStored : Database Unit where
  rows := ⟨[shadowRow], fun _ => []⟩
  inserting _ := none
  aborted _ := false

theorem shadow_reachable : Reachable trusting shadowStored := by
  have hread : Step trusting .empty (.read () shadowCall) .continues
      (Database.empty.open () (some shadowRow)) :=
    .prepared rfl rfl List.nil_prefix shadow_prepared
  have hinsert : Step trusting (Database.empty.open () (some shadowRow)) (.insert ())
      (.stored shadowRow)
      { Database.empty with rows := Rows.empty.insert () shadowRow } := by
    refine .inserted rfl ?_ ?_
    · exact fun _ hmem => absurd hmem List.not_mem_nil
    · exact fun _ _ hmem => absurd hmem List.not_mem_nil
  have hcommit : Step trusting
      { Database.empty with rows := Rows.empty.insert () shadowRow } (.commit ()) .continues
      shadowStored := .committed rfl rfl
  exact ((Reachable.empty.step hread).step hinsert).step hcommit

theorem shadow_policy_follows :
    Follows trusting [] shadowRow ∧
      (shadowStored.rows.committed.map (·.ownerReceipt)).Nodup := by
  obtain ⟨-, hfollows, hreceipts, -⟩ := release_policies_linear shadow_reachable
  exact ⟨hfollows ("w", .execution) [] shadowRow [] (by decide), hreceipts⟩

end MindscapeLocalCore.DurableState.ReleasePolicyRuns
