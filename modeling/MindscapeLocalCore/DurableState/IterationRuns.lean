import MindscapeLocalCore.DurableState.IterationProjections

/-!
Runs of the facade on a single product iteration, from its opening to its decision.
-/

namespace MindscapeLocalCore.DurableState.IterationRuns

open Library Library.Guarded Library.Json Library.JsonText AppendEffects Calls
open CanonicalJson Contracts Errors ExecutionRuns Facade FacadeAppend IterationDocuments
open IterationProjections ProductIterationContract ProductIterations Progress Records Records.Ledger
open Reducers Repository Samples SingleWorkflow Transitions

/-! ## Stages of a run -/

/-- An event of a run: its key is one of those used, and it is neither a message nor an
enrollment. -/
def Keyed (keys : List String) (event : EventRow) : Prop :=
  event.idempotencyKey ∈ keys ∧ event.externalMessageId = none ∧
    event.eventType ≠ .iterationEnrollmentAccepted

def Evidence (definition : Dict) (accepted : List Json) (c : Nat) (state : Dict) : Prop :=
  ∃ frontier sequence hash, Knows state definition frontier accepted ∧
    Frontier frontier sequence hash c ∧ sequence < 10 ^ 6 ∧ IsDigest hash

/-- A reachable ledger whose only workflow is the test iteration, with `n` events and a
projection of which `P` is known. -/
structure Iteration (n : Nat) (keys : List String) (s : State) (P : Dict → Prop) (b : Nat)
    (row : InstanceRow) (state : Dict) (L : Ledger) : Prop where
  reachable : Reachable testWorld L
  solo : Solo row n (Keyed keys) state L
  identity : ∃ identityHash,
    SameIdentity (openedRow .productIteration identityHash) row
  currentState : row.currentState = s
  projection : projectionState L row = .ok state
  controls : SameControls Ledger.empty L
  known : P state
  within : Within b (.obj state)

variable {n b b' c : Nat} {keys : List String} {s : State} {key : String}
  {P P' : Dict → Prop} {definition frontier : Dict} {accepted : List Json} {row : InstanceRow}
  {state : Dict} {L : Ledger}

theorem workflowId_of_iteration (h : Iteration n keys s P b row state L) :
    row.workflowId = "workflow:test" := by
  obtain ⟨_, hidentity⟩ := h.identity
  rw [hidentity]
  rfl

theorem kind_of_iteration (h : Iteration n keys s P b row state L) :
    row.workflowKind = .productIteration := by
  obtain ⟨_, hidentity⟩ := h.identity
  rw [hidentity]
  rfl

theorem stored_of_projectionState (h : projectionState L row = .ok state) :
    ∃ p, L.projection? row.workflowId = some p ∧ p.state = state := by
  unfold projectionState at h
  split at h
  · cases h
  · rename_i p hp
    simp only [bind_eq_ok, exists_unit, pure_eq_ok, Except.ok.injEq] at h
    exact ⟨p, hp, h.2⟩

theorem projectionState_of_grown {used : EventRow → Prop} {actor : Dict} {append : Append}
    {bound : Bindings} {event : EventRow} {state' : Dict} {L' : Ledger}
    (h : Grown testWorld row n used state key actor append bound event state' L L')
    (hstate : priorState (L.projection? row.workflowId) row = .ok state) :
    projectionState L' (appendedRow row append event bound.deadline) = .ok state' := by
  have hown := h.appended.own
  obtain ⟨prior, after, stateHash, hprior, hreduce, -, hprojection⟩ := hown.projected
  cases hstate.symm.trans hprior
  cases h.reduced.symm.trans hreduce
  have hstored : readProjection L' (appendedRow row append event bound.deadline).workflowId =
    some ⟨row.workflowId, event.sequence, row.reducerVersion, stateHash, state'⟩ := hprojection
  have hsequence : event.sequence =
      (appendedRow row append event bound.deadline).currentSequence :=
    hown.isSealed.sequence
  unfold projectionState
  rw [hstored]
  change (ensure _ _ >>= _) = _
  rw [ensure_of hsequence, ok_bind]
  rfl

structure Plain (append : Append) : Prop where
  contractual : append.eventType ≠ .outcomeEvaluationIntentCreated ∧
    append.eventType ≠ .iterationEnrollmentAccepted
  payloadSize : size canonical (.obj append.payload) ≤ 4800 ∧
    size jsonbStyle (.obj append.payload) ≤ 16384
  receipt : pathText append.payload ["typed_receipt", "receipt_type"] ≠
    some "execution_terminal_receipt"
  terminal : append.terminal.getD false = false
  timerId : append.timerId = none
  externalMessageId : append.externalMessageId = none
  deadline : append.nextDurableDeadline = none

theorem modest_of_plain {append : Append} (h : Plain append) (hkey : key ∉ keys) :
    Modest n (Keyed keys) key service append {} where
  actorValid := welcome_service.valid
  actorSize := welcome_service.size
  contractual := h.contractual
  payloadSize := h.payloadSize
  receipt := h.receipt
  terminal := h.terminal
  fresh := by
    rintro e ⟨hused, -⟩ rfl
    exact hkey hused
  timer := by rw [h.timerId]; rfl
  message := by rw [h.externalMessageId]; rfl
  deadline := by rw [h.deadline]; rfl
  freshTimer := by rintro _ ⟨⟩
  freshMessage := by rintro _ ⟨⟩

theorem iteration_of_grown {append : Append} {event : EventRow} {state' : Dict}
    {L' : Ledger} {identityHash : String}
    (hgrown : Grown testWorld row n (Keyed keys) state key service append {} event state' L L')
    (hstate : priorState (L.projection? row.workflowId) row = .ok state)
    (hcontrols : SameControls Ledger.empty L)
    (hreach : Reachable testWorld L') (hplain : Plain append)
    (hidentity : SameIdentity (openedRow .productIteration identityHash) row)
    (hcurrent : row.currentState = s) (hknown : P state')
    (hwithin : Within b (.obj state')) :
    Iteration (n + 1) (key :: keys) (append.currentState.getD s) P b
      (appendedRow row append event none) state' L' := by
  constructor
  case reachable => exact hreach
  case solo =>
    refine (hgrown.solo hplain.terminal).mono ?_
    rintro e (⟨hold, hrest⟩ | rfl)
    · exact ⟨List.mem_cons_of_mem _ hold, hrest⟩
    · have hown := hgrown.appended.own
      refine ⟨?_, hgrown.externalMessageId, ?_⟩
      · rw [hown.idempotencyKey]
        exact List.mem_cons_self
      · rw [hown.eventType]
        exact hplain.contractual.2
  case identity =>
    exact ⟨identityHash, sameIdentity_trans hidentity (sameIdentity_appendedRow _ _ _ _)⟩
  case currentState =>
    change append.currentState.getD row.currentState = _
    rw [hcurrent]
  case projection => exact projectionState_of_grown hgrown hstate
  case controls =>
    obtain ⟨hrequests, hdecisions, hconsumptions, heffects⟩ := hgrown.controls
    exact
      { approvalRequests := hrequests.trans hcontrols.approvalRequests
        approvalDecisions := hdecisions.trans hcontrols.approvalDecisions
        approvalConsumptions := hconsumptions.trans hcontrols.approvalConsumptions
        sideEffects := heffects.trans hcontrols.sideEffects }
  case known => exact hknown
  case within => exact hwithin

theorem iteration_step {operation : Operation} {append : Append}
    (h : Iteration n keys s P b row state L) (hn : n < 9999)
    (hkey : key ∉ keys)
    (hprecheck : (operation.seam testWorld testFacade (inputAt n key service)).precheck L =
      .ok ())
    (hkind : (operation.seam testWorld testFacade (inputAt n key service)).kindCheck row =
      .ok ())
    (hplan : (operation.seam testWorld testFacade (inputAt n key service)).plan L row =
      .ok append)
    (hafter : ∀ M, (operation.seam testWorld testFacade (inputAt n key service)).after M =
      .ok M)
    (hplain : Plain append) (hb : b' ≤ 16384)
    (hreduced : ∀ e : EventRow, e.eventType = append.eventType →
      e.payload = append.payload → e.sequence = n + 1 → IsDigest e.eventHash →
      ∃ state', reduceV1 testWorld state e = .ok state' ∧
        P' state' ∧ Within b' (.obj state')) :
    ∃ event row' state' L',
      exec testWorld (context n) (.append (inputAt n key service) operation) L =
        .ok (.event event, L') ∧
      Grown testWorld row n (Keyed keys) state key service append {} event state' L L' ∧
      Iteration (n + 1) (key :: keys) (append.currentState.getD s) P' b' row' state' L' := by
  obtain ⟨event, row', state', L', hexec, hcommitted, hknown, hwithin⟩ :=
    committed_of_modest (Q := fun state' => P' state' ∧
        Within b' (.obj state'))
      h.reachable h.solo hn (workflowId_of_iteration h) hprecheck hkind hplan hafter
      (modest_of_plain hplain hkey) (fun e htype hpayload hsequence hhash => by
        obtain ⟨state', hreduce, hknown, hwithin⟩ := hreduced e htype hpayload hsequence hhash
        exact ⟨state', hreduce, ⟨hknown, hwithin⟩, hwithin.1.trans hb,
          hwithin.2.trans hb⟩)
  obtain ⟨identityHash, hidentity⟩ := h.identity
  exact ⟨event, _, state', L', hexec, hcommitted.grown,
    iteration_of_grown hcommitted.grown h.solo.state h.controls hcommitted.reachable
      hplain
      hidentity h.currentState hknown hwithin⟩

/-! ## Opening -/

theorem within_initialProjection (s : State) :
    Within 200 (.obj (initialProjection (.str s.name) .null (Json.nat 0) .null)) := by
  simp only [Within, ← byteSize_eq]
  cases s <;> decide

theorem within_definition {state : String} (hstate : state = "draft" ∨ state = "admitted") :
    Within 3200 (.obj (IterationDocuments.definition state)) :=
  size_definitionWith (.inl ⟨rfl, hstate⟩) isDigest_definitionDigest

theorem digest_zeros : IsDigest zeros := ⟨0, by decide⟩

theorem opened_iteration : ∃ event row state L,
    exec testWorld (context 0) (.openProductIteration (identity .productIteration)
        (IterationDocuments.definition "draft") service "key:open") Ledger.empty =
      .ok (.instance row, L) ∧
    Iteration 1 ["key:open"] .draft (Evidence (IterationDocuments.definition "draft") [] 150)
      4100 row state L ∧
    L.events = [event] ∧ event.eventType = .productIterationDefined := by
  obtain ⟨identityHash, hopen⟩ := openWorkflowKind_isOk testWorld .productIteration
  have hsolo : Solo (openedRow .productIteration identityHash) 0 (Keyed [])
      (initialProjection (.str (initialState .productIteration).name) .null (Json.nat 0) .null)
      (openedLedger .productIteration identityHash) :=
    (solo_opened .productIteration identityHash).mono fun _ h => h.elim
  have hdefinition : Within 3200 (.obj (IterationDocuments.definition "draft")) :=
    within_definition (.inl rfl)
  have hplain : Plain
      { eventType := .productIterationDefined
        payload := [("definition", .obj (IterationDocuments.definition "draft"))] } := by
    have hkey : quoteSize "definition" = 12 := by decide
    have hpayload : Within 3216
        (.obj [("definition", .obj (IterationDocuments.definition "draft"))]) :=
      within_mono (within_single hdefinition) (by omega)
    exact
      { contractual := ⟨EventType.noConfusion, EventType.noConfusion⟩
        payloadSize := ⟨hpayload.1.trans (by decide), hpayload.2.trans (by decide)⟩
        receipt := by rintro ⟨⟩
        terminal := rfl
        timerId := rfl
        externalMessageId := rfl
        deadline := rfl }
  have hreduced : ∀ e : EventRow, e.eventType = .productIterationDefined →
      e.payload = [("definition", .obj (IterationDocuments.definition "draft"))] →
      e.sequence = 0 + 1 → IsDigest e.eventHash →
      ∃ state', reduceV1 testWorld (initialProjection
            (.str (initialState .productIteration).name) .null (Json.nat 0) .null) e =
          .ok state' ∧
        (Evidence (IterationDocuments.definition "draft") [] 150 state' ∧
          Within 4100 (.obj state')) ∧
        size canonical (.obj state') ≤ 16384 ∧ size jsonbStyle (.obj state') ≤ 16384 := by
    intro e htype hpayload hsequence hhash
    obtain ⟨state', hreduce, hknows, hwithin⟩ := reduce_defined ⟨_, rfl⟩
      (within_initialProjection _) htype hpayload rfl hdefinition (by omega) hhash
    refine ⟨state', hreduce, ⟨⟨_, 0, zeros, hknows, frontier_startFrontier, by decide,
      digest_zeros⟩, hwithin⟩, hwithin.1.trans (by decide), hwithin.2.trans (by decide)⟩
  have hsuits := suits_of_modest (openedLedger .productIteration identityHash)
    (modest_of_plain hplain (by decide : "key:open" ∉ [])) hreduced
  obtain ⟨event, state', L', happend, hgrown⟩ :=
    appendLocked_of_suits hsolo (by decide) hsuits testFacade
  obtain ⟨hevidence, hwithin⟩ := kept_of_grown hgrown rfl hreduced
  have hkind : isText ((identity .productIteration).get? "workflow_kind")
      "product_iteration" = true := rfl
  have hiteration : item (IterationDocuments.definition "draft") "iteration_id" =
      .ok (.str "workflow:test") := rfl
  have hworkflow : textItem (identity .productIteration) "workflow_id" =
      .ok "workflow:test" := rfl
  have hworkspace : item (IterationDocuments.definition "draft") "workspace_id" =
      .ok (.str "workspace:test") := rfl
  have hown : item (identity .productIteration) "workspace_id" =
      .ok (.str "workspace:test") := rfl
  have hlock : lockInstance (openedLedger .productIteration identityHash) "workflow:test" =
      .ok (openedRow .productIteration identityHash) := rfl
  obtain ⟨row', hrow'⟩ : ∃ row', row' = appendedRow
      (openedRow .productIteration identityHash)
      { eventType := .productIterationDefined
        payload := [("definition", .obj (IterationDocuments.definition "draft"))] }
      event none := ⟨_, rfl⟩
  have hread : readInstance L' "workflow:test" = .ok row' := by
    rw [readInstance_eq_ok, hrow']
    exact row?_of_solo (hgrown.solo rfl)
  have hexec : exec testWorld (context 0) (.openProductIteration (identity .productIteration)
        (IterationDocuments.definition "draft") service "key:open") Ledger.empty =
      .ok (.instance row', L') := by
    rw [exec, replying_eq_ok]
    refine ⟨_, ?_, rfl⟩
    rw [openProductIteration, ensure_of hkind, check_ok, ok_bind,
      requireDefinition_definition (.inl rfl), check_ok, ok_bind, hiteration, check_ok, ok_bind,
      hworkflow, check_ok, ok_bind, ensure_of (Json.pyEq_refl _), check_ok, ok_bind, hworkspace,
      check_ok, ok_bind, hown, check_ok, ok_bind, ensure_of (Json.pyEq_refl _), check_ok, ok_bind]
    change (openWorkflowKind testWorld testFacade _ _ >>= _) = _
    rw [hopen, ok_bind]
    change (check (lockInstance (openedLedger .productIteration identityHash) _) >>= _) = _
    rw [hlock, check_ok, ok_bind]
    change (appendLocked testWorld testFacade (drawAt 0) _ _ _ _ _ >>= _) = _
    rw [happend, ok_bind]
    change (check (readInstance L' _) >>= _) = _
    rw [hread, check_ok, ok_bind]
    rfl
  refine ⟨event, row', state', L', hexec, ?_, hgrown.events, hgrown.appended.own.eventType⟩
  subst hrow'
  exact iteration_of_grown hgrown hsolo.state ⟨rfl, rfl, rfl, rfl⟩
    (run_of_exec (.refl _) hexec) hplain rfl rfl hevidence hwithin

/-! ## Transitions -/

theorem within_receiptMember {source target : State} {typed : Option TypedReceipt} {d : Nat}
    (hreceipt : ∀ receipt, typed = some receipt → Within d receipt.wrapped) :
    Within (d + 200)
      (.obj (transitionPayload source.name target.name ++ receiptMember typed)) := by
  have hkeys : quoteSize "from_state" = 12 ∧ quoteSize "to_state" = 10 ∧
      quoteSize "typed_receipt" = 15 := by decide
  have hsource := size_state_name source
  have htarget := size_state_name target
  have hstates : Within 90 (.obj (transitionPayload source.name target.name)) := by
    refine within_mono (within_set (k := "to_state") (within_single (k := "from_state")
      (within_str source.name)) (within_str target.name)) ?_
    omega
  cases typed with
  | none =>
      rw [receiptMember, List.append_nil]
      exact within_mono hstates (by omega)
  | some receipt =>
      have hset : transitionPayload source.name target.name ++ receiptMember (some receipt) =
          (transitionPayload source.name target.name).set "typed_receipt" receipt.wrapped := rfl
      rw [hset]
      refine within_mono (within_set hstates (hreceipt receipt rfl)) ?_
      omega

theorem within_wrapped {receiptType : String} {receipt : Dict} {d : Nat}
    (htype : quoteSize receiptType ≤ 22) (hreceipt : Within d (.obj receipt)) :
    Within (d + 60) (TypedReceipt.wrapped ⟨receiptType, receipt⟩) := by
  have hkeys : quoteSize "receipt" = 9 ∧ quoteSize "receipt_type" = 14 := by decide
  refine within_mono (within_set (k := "receipt_type") (within_single (k := "receipt")
    hreceipt) (within_str receiptType)) ?_
  omega

theorem moved_step {operation : Operation} {cost : Nat} (source target : State)
    (typed : Option Dict) (terminal : Option Bool)
    (h : Iteration n keys s (Evidence definition accepted c) b row state L) (hn : n < 9999)
    (hkey : key ∉ keys)
    (hprecheck : (operation.seam testWorld testFacade (inputAt n key service)).precheck L =
      .ok ())
    (hkind : (operation.seam testWorld testFacade (inputAt n key service)).kindCheck row =
      .ok ())
    (hplan : (operation.seam testWorld testFacade (inputAt n key service)).plan L row =
      .ok { eventType := .transition
            payload := transitionPayload source.name target.name ++
              receiptMember (typed.map fun receipt => ⟨"product_iteration", receipt⟩)
            currentState := some target
            terminal := terminal })
    (hafter : ∀ M, (operation.seam testWorld testFacade (inputAt n key service)).after M =
      .ok M)
    (hopen : terminal.getD false = false) (hpromoted : target ≠ .promoted)
    (hreceipt : ∀ receipt, typed = some receipt → Within 3200 (.obj receipt))
    (hcost : (typed = none ∧ 200 ≤ cost) ∨ 3450 ≤ cost) (hb : b + cost ≤ 16384) :
    ∃ event row' state' L',
      exec testWorld (context n) (.append (inputAt n key service) operation) L =
        .ok (.event event, L') ∧
      Iteration (n + 1) (key :: keys) target (Evidence (typed.getD definition) accepted c)
        (b + cost) row' state' L' := by
  have hpayload : Within 3460 (.obj (transitionPayload source.name target.name ++
      receiptMember (typed.map fun receipt => ⟨"product_iteration", receipt⟩))) := by
    refine within_receiptMember (d := 3260) ?_
    intro receipt hsome
    obtain ⟨own, hown, rfl⟩ := Option.map_eq_some_iff.mp hsome
    exact within_wrapped (by decide) (hreceipt own hown)
  have hplain : Plain
      { eventType := .transition
        payload := transitionPayload source.name target.name ++
          receiptMember (typed.map fun receipt => ⟨"product_iteration", receipt⟩)
        currentState := some target
        terminal := terminal } := by
    constructor
    case contractual => exact ⟨EventType.noConfusion, EventType.noConfusion⟩
    case payloadSize => exact ⟨hpayload.1.trans (by decide), hpayload.2.trans (by decide)⟩
    case receipt =>
      cases typed with
      | none => rintro ⟨⟩
      | some receipt =>
          change some "product_iteration" ≠ _
          decide
    case terminal => exact hopen
    case timerId => rfl
    case externalMessageId => rfl
    case deadline => rfl
  obtain ⟨frontier, sequence, hash, hknows, hfrontier, hsequence, hdigest⟩ := h.known
  have hreduced : ∀ e : EventRow, e.eventType = .transition →
      e.payload = transitionPayload source.name target.name ++
        receiptMember (typed.map fun receipt => ⟨"product_iteration", receipt⟩) →
      e.sequence = n + 1 → IsDigest e.eventHash →
      ∃ state', reduceV1 testWorld state e = .ok state' ∧
        Evidence (typed.getD definition) accepted c state' ∧
        Within (b + cost) (.obj state') := by
    intro e htype hpayload hcurrent hhash
    obtain ⟨state', hreduce, hknows', hwithin, hbare⟩ := reduce_moved target typed hknows
      h.within htype (by rw [hpayload]; rfl) hpromoted
      (by rw [hpayload]; cases typed <;> rfl) hreceipt (by omega) hhash
    refine ⟨state', hreduce, ⟨frontier, sequence, hash, hknows', hfrontier, hsequence,
      hdigest⟩, ?_⟩
    rcases hcost with ⟨hnone, hcost⟩ | hcost
    · exact within_mono (hbare hnone) (by omega)
    · exact within_mono hwithin (by omega)
  obtain ⟨event, row', state', L', hexec, -, hiteration⟩ :=
    iteration_step h hn hkey hprecheck hkind hplan hafter hplain hb hreduced
  exact ⟨event, row', state', L', hexec, hiteration⟩

theorem requireAdmissible_of {prior : Dict} {items classes : List Json}
    (hprior : state.get? "definition" = some (.obj prior))
    (himmutable : Json.dictEq (immutableDefinition prior) (immutableDefinition definition) =
      true)
    (harms : arms definition = .ok items)
    (hclasses : column "consumer_compatibility_class" items = .ok classes)
    (hcompatible : classes.all (fun value => value.pyEq (.str "compatible")) = true) :
    requireAdmissible state definition = .ok () := by
  simp only [requireAdmissible, hprior, asDict, ok_bind, ensure_of himmutable, harms, hclasses]
  exact ensure_of hcompatible

theorem requireAdmissible_definition {prior : String} (hknows : Knows state
    (IterationDocuments.definition prior) frontier accepted) :
    requireAdmissible state (IterationDocuments.definition "admitted") = .ok () := by
  have hcore : ∀ digest, immutableDefinition (definitionWith 2 digest prior) =
      immutableDefinition (definitionWith 2 digest "admitted") := fun _ => rfl
  have harms : arms (IterationDocuments.definition "admitted") = .ok [.obj candidate] := rfl
  have hclasses : column "consumer_compatibility_class" [.obj candidate] =
      .ok [.str "compatible"] := rfl
  refine requireAdmissible_of hknows.definition ?_ harms hclasses ?_
  · rw [IterationDocuments.definition, hcore]
    exact Json.dictEq_refl _
  · simp

theorem admitted_step (key : String) {admitted : Dict}
    (h : Iteration n keys s (Evidence definition accepted c) b row state L) (hn : n < 9999)
    (hkey : key ∉ keys) (hdefinition : requireDefinition testWorld admitted "admitted" = .ok ())
    (hadmissible : requireAdmissible state admitted = .ok ())
    (hsize : Within 3200 (.obj admitted)) (hb : b + 3450 ≤ 16384) :
    ∃ event row' state' L',
      exec testWorld (context n) (.append (inputAt n key service)
        (.admitProductIteration admitted)) L = .ok (.event event, L') ∧
      Iteration (n + 1) (key :: keys) .admitted (Evidence admitted accepted c) (b + 3450)
        row' state' L' := by
  have hkind : requireKind row .productIteration = .ok () :=
    ensure_of (kind_of_iteration h)
  have hedge : requireTransition .productIteration .draft "admitted" =
      .ok (.admitted, false) := rfl
  refine moved_step .draft .admitted (some admitted) none h hn hkey hdefinition ?_ ?_
    (fun _ => rfl) rfl State.noConfusion ?_ (.inr (Nat.le_refl _)) hb
  · change check (requireKind row .productIteration) = _
    rw [hkind, check_ok]
  · change (check (projectionState L row) >>= _) = _
    rw [h.projection, check_ok, ok_bind, hadmissible, check_ok, ok_bind, hedge, check_ok,
      ok_bind]
    rfl
  · rintro _ ⟨⟩
    exact hsize

theorem plan_of_edge (input : AppendInput) {source : State} (target : State)
    (typed : Option TypedReceipt) (hkind : row.workflowKind = .productIteration)
    (hcurrent : row.currentState = source)
    (hedge : requireTransition .productIteration source target.name = .ok (target, false))
    (hvalid : validateReceipt typed = .ok ()) :
    (appendTransitionForKind .productIteration input target.name typed).plan L row =
      .ok { eventType := .transition
            payload := transitionPayload source.name target.name ++ receiptMember typed
            currentState := some target
            terminal := some false } := by
  have hupper : ¬ (WorkflowKind.productIteration = .execution ∧ false = true) := by
    rintro ⟨-, ⟨⟩⟩
  change (check (requireTransition row.workflowKind row.currentState target.name) >>= _) = _
  rw [hkind, hcurrent, hedge, check_ok, ok_bind]
  change (require (¬ (WorkflowKind.productIteration = .execution ∧ false = true)) _ >>= _) = _
  rw [require_of hupper, ok_bind, hvalid, check_ok, ok_bind]
  rfl

theorem kindCheck_transition (input : AppendInput) (target : String)
    (typed : Option TypedReceipt) (hkind : row.workflowKind = .productIteration) :
    (appendTransitionForKind .productIteration input target typed).kindCheck row = .ok () :=
  require_of hkind

theorem started_step (key : String)
    (h : Iteration n keys .admitted (Evidence definition accepted c) b row state L) (hn : n < 9999)
    (hkey : key ∉ keys) (hb : b + 200 ≤ 16384) :
    ∃ event row' state' L',
      exec testWorld (context n) (.append (inputAt n key service)
        (.startProductIterationCollection none)) L = .ok (.event event, L') ∧
      Iteration (n + 1) (key :: keys) .collecting (Evidence definition accepted c) (b + 200)
        row' state' L' :=
  moved_step .admitted .collecting none (some false) h hn hkey rfl
    (kindCheck_transition _ _ _ (kind_of_iteration h))
    (plan_of_edge _ .collecting none (kind_of_iteration h) h.currentState rfl rfl) (fun _ => rfl) rfl
    State.noConfusion (by rintro _ ⟨⟩) (.inl ⟨rfl, Nat.le_refl _⟩) hb

/-! ## Evidence -/

theorem collecting_iteration : ∃ row state L,
    Iteration 3 ["key:start", "key:admit", "key:open"] .collecting
      (Evidence (IterationDocuments.definition "admitted") [] 150) 7750 row state L := by
  obtain ⟨-, row, state, L, -, hopened, -⟩ := opened_iteration
  obtain ⟨frontier, sequence, hash, hknows, -⟩ := hopened.known
  obtain ⟨-, row', state', L', -, hadmitted⟩ := admitted_step "key:admit" hopened (by decide)
    (by decide) (requireDefinition_definition (.inr rfl))
    (requireAdmissible_definition hknows) (within_definition (.inr rfl)) (by decide)
  obtain ⟨-, row'', state'', L'', -, hstarted⟩ := started_step "key:start" hadmitted
    (by decide) (by decide) (by decide)
  exact ⟨row'', state'', L'', hstarted⟩

/-! ## Messages -/

/-- A message that carries the receipt type of an evaluation. -/
def forged : Dict :=
  [("external_message_id", .str "message:test"),
    ("typed_receipt", .obj [("receipt_type", .str "evaluation_receipt")])]

theorem forged_step (key : String)
    (h : Iteration n keys s (Evidence definition accepted c) b row state L) (hn : n < 9999)
    (hkey : key ∉ keys) (hb : b + 200 ≤ 16384) :
    ∃ event after L',
      exec testWorld (context n) (.append (inputAt n key service)
        (.recordExternalMessage forged)) L = .ok (.event event, L') ∧
      Reachable testWorld L' ∧ L'.events = L.events ++ [event] ∧
      event.eventType = .externalMessageRecorded ∧
      L'.projection? "workflow:test" = some after ∧
      after.state.get? "evaluation_attempt_count" = some (Json.nat 1) := by
  obtain ⟨frontier, sequence, hash, hknows, -⟩ := h.known
  have hmodest : Modest n (Keyed keys) key service
      { eventType := .externalMessageRecorded
        payload := forged
        externalMessageId := some (.str "message:test") }
      { externalMessageId := some "message:test" } := by
    constructor
    case actorValid => exact welcome_service.valid
    case actorSize => exact welcome_service.size
    case contractual => exact ⟨EventType.noConfusion, EventType.noConfusion⟩
    case payloadSize =>
      rw [← byteSize_eq, ← byteSize_eq]
      decide
    case receipt =>
      change some "evaluation_receipt" ≠ _
      decide
    case terminal => rfl
    case fresh =>
      rintro e ⟨hused, -⟩ rfl
      exact hkey hused
    case timer => rfl
    case message => rfl
    case deadline => rfl
    case freshTimer => rintro _ ⟨⟩
    case freshMessage =>
      rintro id - e ⟨-, hmessage, -⟩
      rw [hmessage]
      exact (Option.some_ne_none id).symm
  have hreduced : ∀ e : EventRow, e.eventType = .externalMessageRecorded →
      e.payload = forged → e.sequence = n + 1 → IsDigest e.eventHash →
      ∃ state', reduceV1 testWorld state e = .ok state' ∧
        state'.get? "evaluation_attempt_count" = some (Json.nat 1) ∧
        size canonical (.obj state') ≤ 16384 ∧ size jsonbStyle (.obj state') ≤ 16384 := by
    intro e htype hpayload hcurrent hhash
    have htyped : typedReceipt e.payload =
        .ok [("receipt_type", .str "evaluation_receipt")] := by
      rw [hpayload]
      rfl
    have hcount : toInt ((state.get? "evaluation_attempt_count").getD (Json.nat 0)) =
        .ok 0 := by
      rw [hknows.attempts]
      rfl
    have hreceipt : isText (Dict.get? [("receipt_type", .str "evaluation_receipt")]
        "receipt_type") "evaluation_receipt" = true := rfl
    have hreduce : reduceV1 testWorld state e = .ok (bookkept
        (state.set "evaluation_attempt_count" (Json.nat 1)) e) := by
      rw [reduceV1, reduceEvent, htype, ok_bind, htyped, ok_bind, reduceReceipt,
        if_pos hreceipt, hcount]
      rfl
    have hwithin : Within (b + 184) (.obj (bookkept
        (state.set "evaluation_attempt_count" (Json.nat 1)) e)) := by
      have hkey : quoteSize "evaluation_attempt_count" = 26 := by decide
      refine within_mono (within_bookkept (within_set h.within (within_nat (by decide)))
        (by omega) hhash) ?_
      omega
    refine ⟨_, hreduce, ?_, hwithin.1.trans (by omega), hwithin.2.trans (by omega)⟩
    simp [bookkept, Dict.get?_set]
  obtain ⟨event, row', state', L', hexec, hcommitted, hcount⟩ :=
    @committed_of_modest _ _ _ _ _ (.recordExternalMessage forged) _ _ _ _ _ h.reachable h.solo
      hn (workflowId_of_iteration h) rfl rfl rfl (fun _ => rfl) hmodest hreduced
  have hown := hcommitted.grown.appended.own
  obtain ⟨prior, after, stateHash, hprior, hreduce, -, hprojection⟩ := hown.projected
  cases h.solo.state.symm.trans hprior
  cases hcommitted.grown.reduced.symm.trans hreduce
  rw [← workflowId_of_iteration h]
  exact ⟨event, _, L', hexec, hcommitted.reachable, hcommitted.grown.events, hown.eventType,
    hprojection, hcount⟩

end MindscapeLocalCore.DurableState.IterationRuns
