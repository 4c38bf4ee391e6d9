import Mathlib.Data.List.Nodup
import MindscapeLocalCore.DurableState.RolloverRuns

/-!
Requests, decisions and consumptions of approvals over whole runs: an approval is
consumed once, on what its request and its decisions say at that moment.
-/

namespace MindscapeLocalCore.DurableState.Approvals

open Library Library.Guarded Library.Json Library.JsonSchema Library.JsonText
open Library.Table Calls CanonicalJson Contracts Controls Errors FacadeAppend IterationDocuments
open Progress Records Repository Samples

variable {world : World} {facade : Facade} {now : Timestamp} {L L' : Ledger} {record : Dict}

def OnApprovals : Call → Prop
  | .requestApproval _ | .decideApproval _ | .consumeApproval _ => True
  | _ => False

structure NoApprovals (L : Ledger) : Prop where
  requests : L.approvalRequests = []
  decisions : L.approvalDecisions = []
  consumptions : L.approvalConsumptions = []

def decisionsOf (L : Ledger) (approvalId : String) : List ApprovalDecisionRow :=
  select ApprovalDecisionRow.approvalId approvalId L.approvalDecisions

/-- The request of an approval has not expired, and its decisions approve it: all of them,
a quorum, by distinct deciders, and by others than the requester where duties are
separated. -/
def Warranted (L : Ledger) (now : Timestamp) (approvalId : String) : Prop :=
  ∃ request ∈ L.approvalRequests, request.approvalId = approvalId ∧
    now < request.expiresAt ∧
    (∀ decision ∈ decisionsOf L approvalId, decision.decision = "approved") ∧
    request.requiredQuorum ≤ (decisionsOf L approvalId).length ∧
    ((decisionsOf L approvalId).map ApprovalDecisionRow.decidedBy).Nodup ∧
    (request.separationOfDuties = true →
      ∀ decision ∈ decisionsOf L approvalId, decision.decidedBy ≠ request.requestedBy)

/-! ### What a call adds -/

theorem added_of_requestApproval {payload : Dict}
    (h : requestApproval world facade payload L = .ok (record, L')) :
    ∃ row : ApprovalRequestRow,
      row.approvalId ∉ L.approvalRequests.map ApprovalRequestRow.approvalId ∧
        L' = { L with approvalRequests := L.approvalRequests ++ [row] } := by
  simp only [requestApproval, insertApprovalRequest, bind_eq_ok, exists_unit,
    check_eq_ok, constrain_eq_ok, pure_eq_ok, Except.ok.injEq, Prod.mk.injEq] at h
  obtain ⟨_, -, row, -, _, ⟨hnew, -, -, -, -, rfl⟩, -, rfl⟩ := h
  exact ⟨row, lookup_eq_none_iff.mp hnew, rfl⟩

theorem added_of_decideApproval {input : DecisionInput}
    (h : decideApproval world facade now input L = .ok (record, L')) :
    ∃ (request : ApprovalRequestRow) (row : ApprovalDecisionRow),
      lookup ApprovalRequestRow.approvalId row.approvalId L.approvalRequests = some request ∧
        (request.separationOfDuties = true → row.decidedBy ≠ request.requestedBy) ∧
        (row.approvalId, row.decidedBy) ∉
          L.approvalDecisions.map (fun r => (r.approvalId, r.decidedBy)) ∧
        L' = { L with approvalDecisions := L.approvalDecisions ++ [row] } := by
  simp only [decideApproval, insertApprovalDecision, bind_eq_ok, exists_unit,
    check_eq_ok, constrain_eq_ok, ensure_eq_ok, pure_eq_ok, Except.ok.injEq,
    Prod.mk.injEq] at h
  obtain ⟨request, hrequest, -, hduties, signed, -, signature, -, time, -, _,
    ⟨-, -, -, hnew, rfl⟩, -, rfl⟩ := h
  refine ⟨request, ⟨input.decisionId, input.approvalId, input.decidedBy, input.decision,
    input.policyVersion, signed, facade.signer.keyId world, signature, time⟩, ?_, ?_, ?_, rfl⟩
  · unfold readApprovalRequest at hrequest
    split at hrequest
    · rename_i row hrow
      exact hrow.trans (congrArg some (Except.ok.inj hrequest))
    · exact absurd hrequest (by rintro ⟨⟩)
  · exact fun hseparated hsame => hduties ⟨hseparated, hsame⟩
  · exact lookup_eq_none_iff.mp hnew

theorem mem_decisionsOf {approvalId : String} {decision : ApprovalDecisionRow} :
    decision ∈ decisionsOf L approvalId ↔
      decision ∈ L.approvalDecisions ∧ decision.approvalId = approvalId := mem_select

theorem added_of_consumeApproval {input : ConsumptionInput}
    (h : consumeApproval world facade now input L = .ok (record, L')) :
    ∃ (request : ApprovalRequestRow) (row : ApprovalConsumptionRow),
      lookup ApprovalRequestRow.approvalId row.approvalId L.approvalRequests = some request ∧
        now < request.expiresAt ∧
        (∀ decision ∈ decisionsOf L row.approvalId, decision.decision = "approved") ∧
        request.requiredQuorum ≤ (decisionsOf L row.approvalId).length ∧
        row.approvalId ∉ L.approvalConsumptions.map ApprovalConsumptionRow.approvalId ∧
        row.effectOrTransitionId ∉
          L.approvalConsumptions.map ApprovalConsumptionRow.effectOrTransitionId ∧
        L' = { L with approvalConsumptions := L.approvalConsumptions ++ [row] } := by
  simp only [consumeApproval, bind_eq_ok, exists_unit, check_eq_ok, ensure_eq_ok] at h
  obtain ⟨request, hrequest, ⟨hunexpired, happroved⟩, hquorum, h⟩ := h
  have hall : ∀ decision ∈ decisionsOf L input.approvalId, decision.decision = "approved" :=
    fun decision hmem => happroved decision (List.mem_mergeSort.mpr hmem)
  have hlength : (((decisionsOf L input.approvalId).mergeSort decidedLe).filter
      fun row => row.decision = "approved").length = (decisionsOf L input.approvalId).length := by
    have hfilter := List.filter_eq_self.mpr fun decision hmem =>
      decide_eq_true (happroved decision hmem)
    exact (congrArg List.length hfilter).trans (List.length_mergeSort _)
  split at h
  · exact absurd h (by rintro ⟨⟩)
  · rename_i last _
    simp only [insertApprovalConsumption, bind_eq_ok, exists_unit, check_eq_ok,
      constrain_eq_ok, pure_eq_ok, Except.ok.injEq, Prod.mk.injEq] at h
    obtain ⟨signed, -, signature, -, time, -, _, ⟨-, -, happroval, -, heffect, rfl⟩, -, rfl⟩ := h
    refine ⟨request, ⟨input.consumptionId, input.approvalId, last.decisionId, input.deliveryId,
      input.effectOrTransitionId, signed, facade.signer.keyId world, signature, time⟩,
      ?_, hunexpired, hall, ?_, lookup_eq_none_iff.mp happroval, lookup_eq_none_iff.mp heffect, rfl⟩
    · unfold readApprovalRequest at hrequest
      split at hrequest
      · rename_i row hrow
        exact hrow.trans (congrArg some (Except.ok.inj hrequest))
      · exact absurd hrequest (by rintro ⟨⟩)
    · rw [← hlength]
      exact hquorum

/-! ### Runs -/

/-- What the tables of the approvals say about each other. -/
structure Consistent (L : Ledger) : Prop where
  requests : (L.approvalRequests.map ApprovalRequestRow.approvalId).Nodup
  deciders : (L.approvalDecisions.map fun row => (row.approvalId, row.decidedBy)).Nodup
  requested : ∀ decision ∈ L.approvalDecisions,
    decision.approvalId ∈ L.approvalRequests.map ApprovalRequestRow.approvalId
  separated : ∀ decision ∈ L.approvalDecisions, ∀ request ∈ L.approvalRequests,
    request.approvalId = decision.approvalId → request.separationOfDuties = true →
      decision.decidedBy ≠ request.requestedBy
  approvals : (L.approvalConsumptions.map ApprovalConsumptionRow.approvalId).Nodup
  effects : (L.approvalConsumptions.map ApprovalConsumptionRow.effectOrTransitionId).Nodup

theorem nodup_append_new {α β : Type} {f : α → β} {rows : List α} {row : α}
    (h : (rows.map f).Nodup) (hnew : f row ∉ rows.map f) : ((rows ++ [row]).map f).Nodup := by
  rw [List.map_append]
  refine List.Nodup.append h (List.nodup_singleton _) ?_
  rintro _ hmem hsame
  rw [List.mem_singleton.mp hsame] at hmem
  exact hnew hmem

theorem consistent_of_noApprovals (h : NoApprovals L) : Consistent L := by
  constructor
  · rw [h.requests]
    exact List.nodup_nil
  · rw [h.decisions]
    exact List.nodup_nil
  · rw [h.decisions]
    exact fun _ hmem => absurd hmem List.not_mem_nil
  · rw [h.decisions]
    exact fun _ hmem => absurd hmem List.not_mem_nil
  · rw [h.consumptions]
    exact List.nodup_nil
  · rw [h.consumptions]
    exact List.nodup_nil

theorem consistent_requested (h : Consistent L) {row : ApprovalRequestRow}
    (hnew : row.approvalId ∉ L.approvalRequests.map ApprovalRequestRow.approvalId) :
    Consistent { L with approvalRequests := L.approvalRequests ++ [row] } where
  requests := nodup_append_new h.requests hnew
  deciders := h.deciders
  requested decision hmem := by
    rw [List.map_append]
    exact List.mem_append_left _ (h.requested decision hmem)
  separated decision hmem request hrequest hid hseparated := by
    rcases List.mem_append.mp hrequest with hold | hadded
    · exact h.separated decision hmem request hold hid hseparated
    · rw [List.mem_singleton.mp hadded] at hid
      exact absurd (hid ▸ h.requested decision hmem) hnew
  approvals := h.approvals
  effects := h.effects

theorem consistent_decided (h : Consistent L) {request : ApprovalRequestRow}
    {row : ApprovalDecisionRow}
    (hrequest : lookup ApprovalRequestRow.approvalId row.approvalId L.approvalRequests =
      some request)
    (hduties : request.separationOfDuties = true → row.decidedBy ≠ request.requestedBy)
    (hnew : (row.approvalId, row.decidedBy) ∉
      L.approvalDecisions.map (fun r => (r.approvalId, r.decidedBy))) :
    Consistent { L with approvalDecisions := L.approvalDecisions ++ [row] } where
  requests := h.requests
  deciders := nodup_append_new h.deciders hnew
  requested decision hmem := by
    rcases List.mem_append.mp hmem with hold | hadded
    · exact h.requested decision hold
    · rw [List.mem_singleton.mp hadded]
      exact List.mem_map.mpr ⟨request, mem_of_lookup hrequest, key_of_lookup hrequest⟩
  separated decision hmem other hother hid hseparated := by
    rcases List.mem_append.mp hmem with hold | hadded
    · exact h.separated decision hold other hother hid hseparated
    · rw [List.mem_singleton.mp hadded] at hid ⊢
      have hlookup := lookup_eq_some_of_mem h.requests hother
      rw [hid, hrequest] at hlookup
      rw [← Option.some.inj hlookup] at hseparated ⊢
      exact hduties hseparated
  approvals := h.approvals
  effects := h.effects

theorem consistent_consumed (h : Consistent L) {row : ApprovalConsumptionRow}
    (hnew : row.approvalId ∉ L.approvalConsumptions.map ApprovalConsumptionRow.approvalId)
    (heffect : row.effectOrTransitionId ∉
      L.approvalConsumptions.map ApprovalConsumptionRow.effectOrTransitionId) :
    Consistent { L with approvalConsumptions := L.approvalConsumptions ++ [row] } where
  requests := h.requests
  deciders := h.deciders
  requested := h.requested
  separated := h.separated
  approvals := nodup_append_new h.approvals hnew
  effects := nodup_append_new h.effects heffect

/-- The tables stay consistent, and what a call adds to the consumptions is warranted. -/
structure Kept (L L' : Ledger) (now : Timestamp) : Prop where
  consistent : Consistent L'
  warranted : ∀ row ∈ L'.approvalConsumptions, row ∉ L.approvalConsumptions →
    Warranted L now row.approvalId

theorem kept_self (h : Consistent L) : Kept L L now :=
  ⟨h, fun _ hmem hnew => absurd hmem hnew⟩

theorem warranted_of_consistent (h : Consistent L) {request : ApprovalRequestRow}
    {approvalId : String}
    (hrequest : lookup ApprovalRequestRow.approvalId approvalId L.approvalRequests = some request)
    (hunexpired : now < request.expiresAt)
    (happroved : ∀ decision ∈ decisionsOf L approvalId, decision.decision = "approved")
    (hquorum : request.requiredQuorum ≤ (decisionsOf L approvalId).length) :
    Warranted L now approvalId := by
  have hid := key_of_lookup hrequest
  refine ⟨request, mem_of_lookup hrequest, hid, hunexpired, happroved, hquorum, ?_, ?_⟩
  · have hpairs : ((decisionsOf L approvalId).map
        fun row => (row.approvalId, row.decidedBy)).Nodup :=
      h.deciders.sublist (List.filter_sublist.map _)
    rw [List.nodup_map_iff_inj_on (List.Nodup.of_map _ hpairs)]
    intro decision hmem other hother hsame
    apply List.inj_on_of_nodup_map hpairs hmem hother
    rw [(mem_decisionsOf.mp hmem).2, (mem_decisionsOf.mp hother).2, hsame]
  · intro hseparated decision hmem
    obtain ⟨hdecision, happroval⟩ := mem_decisionsOf.mp hmem
    exact h.separated decision hdecision request (mem_of_lookup hrequest)
      (hid.trans happroval.symm) hseparated

theorem kept_of_step (h : Consistent L) {ctx : Context} {call : Call} (hcall : OnApprovals call) :
    Kept L (step world ctx call L) ctx.now := by
  refine step_cases (P := fun M => Kept L M ctx.now) (kept_self h) ?_
  intro reply L' hexec
  cases call with
  | requestApproval payload =>
      obtain ⟨_, hrequest, -⟩ := replying_eq_ok.mp hexec
      obtain ⟨row, hnew, rfl⟩ := added_of_requestApproval hrequest
      exact ⟨consistent_requested h hnew, fun _ hmem hnot => absurd hmem hnot⟩
  | decideApproval input =>
      obtain ⟨_, hdecide, -⟩ := replying_eq_ok.mp hexec
      obtain ⟨request, row, hrequest, hduties, hnew, rfl⟩ := added_of_decideApproval hdecide
      exact ⟨consistent_decided h hrequest hduties hnew, fun _ hmem hnot => absurd hmem hnot⟩
  | consumeApproval input =>
      obtain ⟨_, hconsume, -⟩ := replying_eq_ok.mp hexec
      obtain ⟨request, row, hrequest, hunexpired, happroved, hquorum, hnew, heffect, rfl⟩ :=
        added_of_consumeApproval hconsume
      refine ⟨consistent_consumed h hnew heffect, fun added hmem hnot => ?_⟩
      rcases List.mem_append.mp hmem with hold | hadded
      · exact absurd hold hnot
      · rw [List.mem_singleton.mp hadded]
        exact warranted_of_consistent h hrequest hunexpired happroved hquorum
  | _ => exact hcall.elim

theorem consistent_of_run (h : NoApprovals L)
    (hrun : RunWhere world (fun _ _ call => OnApprovals call) L L') : Consistent L' := by
  induction hrun with
  | refl => exact consistent_of_noApprovals h
  | step _ ctx call hcall ih => exact (kept_of_step ih hcall).consistent

/-- In a run of the calls on approvals every approval and every effect is consumed once at
most, and each consumption is warranted at the moment that records it. -/
theorem approvals_are_consumed_once (hstart : NoApprovals L)
    (hrun : RunWhere world (fun _ _ call => OnApprovals call) L L') :
    (L'.approvalConsumptions.map ApprovalConsumptionRow.approvalId).Nodup ∧
      (L'.approvalConsumptions.map ApprovalConsumptionRow.effectOrTransitionId).Nodup ∧
      ∀ ctx call, OnApprovals call →
        ∀ row ∈ (step world ctx call L').approvalConsumptions, row ∉ L'.approvalConsumptions →
          Warranted L' ctx.now row.approvalId := by
  have hconsistent := consistent_of_run hstart hrun
  refine ⟨hconsistent.approvals, hconsistent.effects, ?_⟩
  intro ctx call hcall
  exact (kept_of_step hconsistent hcall).warranted

/-! ### An approval that is requested, decided and consumed -/

def approvalDoc : Dict :=
  [("action_hash", .str zeros), ("approval_id", .str "approval:test"),
    ("created_at", .str moment), ("expires_at", .str nextDay),
    ("interrupt_id", .str "interrupt:test"), ("phase", .str "request"),
    ("quorum", Json.nat 1), ("requested_by", .str "requester"),
    ("resume_payload_hash", .str zeros), ("separation_of_duties", .bool true),
    ("tool_call_id", .str "tool:test"), ("workflow_id", .str "workflow:test")]

def decisionDoc : Dict := approvalDoc.update
  [("phase", .str "decision"), ("decided_by", .str "decider"), ("decision", .str "approved")]

def consumptionDoc : Dict := approvalDoc.update
  [("phase", .str "consumption"), ("decision_receipt_id", .str "decision:test"),
    ("delivery_id", .str "delivery:test"), ("consumed_effect_id", .str "effect:test")]

theorem signRecord_signed {payload doc : Dict} (hdoc : payload.erase "signature" = doc)
    (hsize : Within 2000 (.obj doc))
    (hvalid : ∀ s, (text 1 4096).valid (.str s) = true →
      approval.valid (.obj (doc.set "signature" (.str s))) = true) :
    signRecord testFacade "approval" payload = .ok (signed doc) := by
  have hencode : encode (.obj doc) = .ok (JsonText.render canonical (.obj doc)).toUTF8 :=
    encode_eq_ok.mpr ⟨hsize.1.trans (by decide), rfl⟩
  have hcontract : validateContract "approval" (signed doc) = .ok () :=
    require_of (hvalid _ (valid_signature _))
  rw [signRecord, hdoc, hencode, ok_bind]
  change (validateContract "approval" (signed doc) >>= _) = _
  rw [hcontract, ok_bind]
  rfl

theorem octetLength_signed {doc : Dict} (hsize : Within 2000 (.obj doc)) :
    octetLength (signed doc) ≤ 16384 := by
  have hkey : quoteSize "signature" = 11 := by decide
  have hsignature := within_mono
    (within_str (testSigner.signature (JsonText.render canonical (.obj doc)).toUTF8))
    (quoteSize_base64Url _).le
  rw [octetLength_eq_size]
  refine (within_set hsize hsignature).2.trans ?_
  omega

theorem within_docs : Within 2000 (.obj approvalDoc) ∧ Within 2000 (.obj decisionDoc) ∧
    Within 2000 (.obj consumptionDoc) := by
  simp only [Within, ← byteSize_eq]
  decide

theorem docs_are_valid {doc : Dict} (hdoc : doc ∈ [approvalDoc, decisionDoc, consumptionDoc])
    {s : String} (hs : (text 1 4096).valid (.str s) = true) :
    approval.valid (.obj (doc.set "signature" (.str s))) = true := by
  have hbase : ∀ doc ∈ [approvalDoc, decisionDoc, consumptionDoc],
      approval.valid (.obj (doc.set "signature" (.str "signature"))) = true := by
    decide
  have hvalid := hbase doc hdoc
  have hagain : doc.set "signature" (.str s) =
      (doc.set "signature" (.str "signature")).set "signature" (.str s) := by
    rw [Dict.set_set]
  rw [approval, Schema.valid, allValid, Bool.and_eq_true] at hvalid ⊢
  refine ⟨?_, ?_⟩
  · rw [hagain]
    exact valid_object_set (by decide) hvalid.1 rfl hs
  -- what a phase requires does not read the signature
  · simp only [List.mem_cons, List.not_mem_nil, or_false] at hdoc
    obtain rfl | rfl | rfl := hdoc <;> rfl

def decisionInput : DecisionInput :=
  ⟨"approval:test", "decision:test", "decider", "approved", "policy.v1", moment⟩

def consumptionInput : ConsumptionInput :=
  ⟨"approval:test", "consumption:test", "delivery:test", "effect:test", moment⟩

def requestRow (signature : String) : ApprovalRequestRow where
  approvalId := "approval:test"
  workflowId := "workflow:test"
  interruptId := "interrupt:test"
  toolCallId := "tool:test"
  actionHash := zeros
  resumePayloadHash := zeros
  requestedBy := "requester"
  requiredQuorum := 1
  separationOfDuties := true
  payload := approvalDoc.set "signature" (.str signature)
  expiresAt := 1785110400000000
  keyId := signerKey
  signature := signature
  createdAt := 1785024000000000

def decisionRow (signature : String) : ApprovalDecisionRow where
  decisionId := "decision:test"
  approvalId := "approval:test"
  decidedBy := "decider"
  decision := "approved"
  policyVersion := "policy.v1"
  payload := decisionDoc.set "signature" (.str signature)
  keyId := signerKey
  signature := signature
  decidedAt := 1785024000000000

def consumptionRow (signature : String) : ApprovalConsumptionRow where
  consumptionId := "consumption:test"
  approvalId := "approval:test"
  decisionId := "decision:test"
  deliveryId := "delivery:test"
  effectOrTransitionId := "effect:test"
  payload := consumptionDoc.set "signature" (.str signature)
  keyId := signerKey
  signature := signature
  consumedAt := 1785024000000000

theorem requested (hworkflow : L.row? "workflow:test" ≠ none)
    (hrequests : L.approvalRequests = []) : ∃ signature,
    requestApproval testWorld testFacade approvalDoc L =
      .ok (approvalDoc.set "signature" (.str signature),
        { L with approvalRequests := [requestRow signature] }) := by
  obtain ⟨hwithin, -, -⟩ := within_docs
  have hdoc : (approvalDoc.set "phase" (.str "request")).erase "signature" = approvalDoc := rfl
  have hsigned := signRecord_signed hdoc hwithin fun _ hs => docs_are_valid (by simp) hs
  have hrow : ∀ s, approvalRequestRow testWorld testFacade
      (approvalDoc.set "signature" (.str s)) = .ok (requestRow s) := fun _ => rfl
  have hoctets := octetLength_signed hwithin
  rw [signed] at hsigned hoctets
  refine ⟨testSigner.signature (JsonText.render canonical (.obj approvalDoc)).toUTF8, ?_⟩
  rw [requestApproval, hsigned, check_ok, ok_bind, hrow, check_ok, ok_bind]
  simp only [insertApprovalRequest, bind_eq_ok, exists_unit, constrain_eq_ok, pure_eq_ok,
    hrequests]
  exact ⟨_, ⟨rfl, hworkflow, by decide, hoctets, rfl, rfl⟩, rfl⟩

theorem unexpired {signature : String} : 0 < (requestRow signature).expiresAt := by
  change (0 : ℤ) < 1785110400000000
  decide

theorem decided {signature : String} (hrequests : L.approvalRequests = [requestRow signature])
    (hdecisions : L.approvalDecisions = []) : ∃ signature',
    decideApproval testWorld testFacade 0 decisionInput L =
      .ok (decisionDoc.set "signature" (.str signature'),
        { L with approvalDecisions := [decisionRow signature'] }) := by
  obtain ⟨-, hwithin, -⟩ := within_docs
  have hrequest : readApprovalRequest L "approval:test" = .ok (requestRow signature) := by
    rw [readApprovalRequest, hrequests]
    rfl
  have hdoc : ((((((((requestRow signature).payload.set "phase" (.str "decision")).set
      "decided_by" (.str "decider")).set "decision" (.str "approved")).set
      "quorum" (.num (.int (requestRow signature).requiredQuorum))).set
      "separation_of_duties" (.bool (requestRow signature).separationOfDuties)).set
      "created_at" (.str moment))).erase "signature" = decisionDoc := rfl
  have hsigned := signRecord_signed hdoc hwithin fun _ hs => docs_are_valid (by simp) hs
  have hoctets := octetLength_signed hwithin
  rw [signed] at hsigned hoctets
  refine ⟨testSigner.signature (JsonText.render canonical (.obj decisionDoc)).toUTF8, ?_⟩
  simp only [decideApproval, insertApprovalDecision, bind_eq_ok, exists_unit, check_eq_ok,
    constrain_eq_ok, ensure_eq_ok, pure_eq_ok, hdecisions]
  refine ⟨_, hrequest, unexpired, fun hduties => ?_, _, hsigned, _, rfl, _, rfl, _,
    ⟨rfl, by decide, hoctets, rfl, rfl⟩, rfl⟩
  have hother : "decider" ≠ "requester" := by decide
  exact hother hduties.2

theorem consumed {signature decision : String}
    (hrequests : L.approvalRequests = [requestRow signature])
    (hdecisions : L.approvalDecisions = [decisionRow decision])
    (hconsumptions : L.approvalConsumptions = []) : ∃ signature',
    consumeApproval testWorld testFacade 0 consumptionInput L =
      .ok (consumptionDoc.set "signature" (.str signature'),
        { L with approvalConsumptions := [consumptionRow signature'] }) := by
  obtain ⟨-, -, hwithin⟩ := within_docs
  have hrequest : readApprovalRequest L "approval:test" = .ok (requestRow signature) := by
    rw [readApprovalRequest, hrequests]
    rfl
  have hselected : (select ApprovalDecisionRow.approvalId consumptionInput.approvalId
      L.approvalDecisions).mergeSort decidedLe = [decisionRow decision] := by
    rw [hdecisions]
    exact List.mergeSort_singleton _
  have hdoc : ((((((requestRow signature).payload.set "phase" (.str "consumption")).set
      "decision_receipt_id" (.str "decision:test")).set "delivery_id" (.str "delivery:test")).set
      "consumed_effect_id" (.str "effect:test")).set
      "created_at" (.str moment)).erase "signature" = consumptionDoc := rfl
  have hsigned := signRecord_signed hdoc hwithin fun _ hs => docs_are_valid (by simp) hs
  have hoctets := octetLength_signed hwithin
  rw [signed] at hsigned hoctets
  refine ⟨testSigner.signature (JsonText.render canonical (.obj consumptionDoc)).toUTF8, ?_⟩
  have happroved : [decisionRow decision].filter (fun row => row.decision = "approved") =
      [decisionRow decision] := rfl
  simp only [consumeApproval, hselected, happroved, List.getLast?_singleton,
    insertApprovalConsumption, bind_eq_ok, exists_unit, check_eq_ok, ensure_eq_ok,
    constrain_eq_ok, pure_eq_ok, hconsumptions]
  refine ⟨_, hrequest, ⟨unexpired, fun row hmem => ?_⟩, le_refl (1 : ℤ), _, hsigned, _, rfl,
    _, rfl, _, ⟨rfl, hoctets, rfl, rfl, rfl, rfl⟩, rfl⟩
  rw [List.mem_singleton.mp hmem]
  rfl

theorem step_requestApproval (ctx : Context) {payload : Dict}
    (h : requestApproval world ctx.facade payload L = .ok (record, L')) :
    step world ctx (.requestApproval payload) L = L' := by
  have hexec : exec world ctx (.requestApproval payload) L = .ok (.receipt record, L') :=
    replying_eq_ok.mpr ⟨_, h, rfl⟩
  rw [step, hexec]

theorem step_decideApproval (ctx : Context) {input : DecisionInput}
    (h : decideApproval world ctx.facade ctx.now input L = .ok (record, L')) :
    step world ctx (.decideApproval input) L = L' := by
  have hexec : exec world ctx (.decideApproval input) L = .ok (.receipt record, L') :=
    replying_eq_ok.mpr ⟨_, h, rfl⟩
  rw [step, hexec]

theorem step_consumeApproval (ctx : Context) {input : ConsumptionInput}
    (h : consumeApproval world ctx.facade ctx.now input L = .ok (record, L')) :
    step world ctx (.consumeApproval input) L = L' := by
  have hexec : exec world ctx (.consumeApproval input) L = .ok (.receipt record, L') :=
    replying_eq_ok.mpr ⟨_, h, rfl⟩
  rw [step, hexec]

theorem approval_is_consumed_once : ∃ (L' : Ledger) (signature : String),
    L'.approvalConsumptions = [consumptionRow signature] ∧
      (L'.approvalConsumptions.map ApprovalConsumptionRow.approvalId).Nodup ∧
      (L'.approvalConsumptions.map ApprovalConsumptionRow.effectOrTransitionId).Nodup ∧
      ∀ ctx call, OnApprovals call →
        ∀ row ∈ (step testWorld ctx call L').approvalConsumptions,
          row ∉ L'.approvalConsumptions → Warranted L' ctx.now row.approvalId := by
  have hstart : NoApprovals (openedLedger .execution zeros) := ⟨rfl, rfl, rfl⟩
  have hworkflow : (openedLedger .execution zeros).row? "workflow:test" ≠ none := by
    rintro ⟨⟩
  obtain ⟨request, hrequest⟩ := requested hworkflow rfl
  have hrequested := step_requestApproval (context 0) hrequest
  obtain ⟨decision, hdecision⟩ := decided (L := { openedLedger .execution zeros with
    approvalRequests := [requestRow request] }) rfl rfl
  have hdecided := step_decideApproval (context 0) hdecision
  obtain ⟨consumption, hconsumption⟩ := consumed (L := { openedLedger .execution zeros with
    approvalRequests := [requestRow request]
    approvalDecisions := [decisionRow decision] }) rfl rfl rfl
  have hconsumed := step_consumeApproval (context 0) hconsumption
  have hopened : RunWhere testWorld (fun _ _ call => OnApprovals call)
      (openedLedger .execution zeros) (openedLedger .execution zeros) := .refl _
  have hrun := hopened.step (context 0) (.requestApproval approvalDoc) trivial
  rw [hrequested] at hrun
  have hrun := hrun.step (context 0) (.decideApproval decisionInput) trivial
  rw [hdecided] at hrun
  have hrun := hrun.step (context 0) (.consumeApproval consumptionInput) trivial
  rw [hconsumed] at hrun
  exact ⟨_, consumption, rfl, approvals_are_consumed_once hstart hrun⟩

end MindscapeLocalCore.DurableState.Approvals
