import MindscapeLocalCore.DurableState.Projections
import MindscapeLocalCore.DurableState.TerminalRuns

/-!
The terminal receipt of an execution: that it is the last event exactly when the
execution has ended, and what it says about the chain that it closes.
-/

namespace MindscapeLocalCore.DurableState.ExecutionReceipts

open Library.Guarded Library.Json AppendEffects CallEffects Calls CanonicalJson Chain Contracts
open Errors ExecutionRuns Facade FacadeAppend Records Records.Ledger Repository Samples
open SingleWorkflow Terminal TerminalReceipts TerminalRuns Transitions

def Ended (state : State) : Prop :=
  state = .succeeded ∨ state = .failed ∨ state = .cancelled ∨ state = .escalated

/-- An event that stores an `execution_terminal_receipt`. -/
def IsTerminalReceipt (event : EventRow) : Prop :=
  event.eventType = .transition ∧
    pathText event.payload ["typed_receipt", "receipt_type"] =
      some executionTerminalReceiptType

/-- The last two events of an ended execution: its terminal transition, and the receipt
that names it. -/
structure ClosedBy (row : InstanceRow) (before : List EventRow) (first last : EventRow)
    (signed : Dict) : Prop where
  others : ∀ e ∈ before ++ [first], ¬ IsTerminalReceipt e
  closing : IsTerminalReceipt last
  receipt : storedReceipt last = .ok signed
  transition : first.eventType = .transition
  target : first.payload.get? "to_state" = some (.str row.currentState.name)
  parity : ∀ field ∈ parityFields,
    Json.pyEqOption (signed.get? field) (row.semanticIdentity.get? field) = true
  terminalSequence : signed.get? "terminal_sequence" = some (Json.nat first.sequence)
  terminalEventHash : signed.get? "terminal_event_hash" = some (.str first.eventHash)
  terminalState : signed.get? "terminal_state" = some (.str row.currentState.name)

structure Receipted (row : InstanceRow) (events : List EventRow) : Prop where
  live : ¬ Ended row.currentState → ∀ e ∈ events, ¬ IsTerminalReceipt e
  ended : Ended row.currentState → ∃ before first last signed,
    events = before ++ [first, last] ∧ ClosedBy row before first last signed

def ReceiptedOf (V : View) : Prop :=
  ∀ row, V.row = some row → row.workflowKind = .execution → Receipted row V.events

/-- The receipt that an operation carries under a caller's type name. -/
def typedOf : Operation → Option TypedReceipt
  | .appendTransition _ typed => typed
  | .appendTypedReceipt typed => some typed
  | _ => none

/-- No generic operation that would append stores an `execution_terminal_receipt` on an
execution, and a terminal call names its own target in the receipt. -/
structure ReceiptsBound (L : Ledger) (_ : Context) (call : Call) : Prop where
  generic : ∀ input operation typed locked,
    call = .append input operation → typedOf operation = some typed →
    L.row? input.workflowId = some locked → locked.workflowKind = .execution →
    locked.terminal = false →
    (locked.currentSequence : Int) = input.expectedSequence →
    findIdempotentEvent L input.workflowId input.idempotencyKey = none →
    validateTypedReceipt typed.receiptType typed.receipt = .ok () →
    typed.receiptType ≠ executionTerminalReceiptType
  terminal : ∀ input targetState receipt,
    call = .appendExecutionTerminal input targetState receipt →
    findIdempotentEvent L input.workflowId (input.idempotencyKey ++ ":receipt") = none →
    receipt.get? "terminal_state" = some (.str targetState)

theorem isSink_of_ended {state : State} (h : Ended state) : IsSink .execution state := by
  rcases h with rfl | rfl | rfl | rfl <;> decide

theorem ended_of_successor {current target : State}
    (htarget : target ∈ successors .execution current)
    (hsink : IsSink .execution target) : Ended target := by
  cases current <;> cases target <;>
    first
      | exact .inl rfl
      | exact .inr (.inl rfl)
      | exact .inr (.inr (.inl rfl))
      | exact .inr (.inr (.inr rfl))
      | exact absurd hsink (by decide)
      | exact absurd htarget (by decide)

/-! ## Receipts -/

theorem pathText_receiptMember (typed : Option TypedReceipt) {payload : Dict}
    (h : payload.get? "typed_receipt" = typed.map TypedReceipt.wrapped) :
    pathText payload ["typed_receipt", "receipt_type"] =
      typed.map TypedReceipt.receiptType := by
  cases typed with
  | none => simp [pathText, h]
  | some typed => simp [pathText, h, TypedReceipt.wrapped, Dict.get?_cons, Json.str?]

theorem get?_receiptMember_typed (typed : TypedReceipt) :
    Dict.get? (receiptMember (some typed)) "typed_receipt" =
      (some typed).map TypedReceipt.wrapped := by
  simp [receiptMember, Dict.get?_cons]

theorem get?_of_signReceipt {world : World} {facade : Facade} {receipt signed : Dict}
    {transition : EventRow} (h : signReceipt world facade receipt transition = .ok signed) :
    (∀ k, k ∉ ["signature", "key_id", "terminal_event_hash", "terminal_sequence"] →
      signed.get? k = receipt.get? k) ∧
    signed.get? "terminal_sequence" = some (Json.nat transition.sequence) ∧
    signed.get? "terminal_event_hash" = some (.str transition.eventHash) := by
  simp only [signReceipt, bind_eq_ok, exists_unit, pure_eq_ok, Except.ok.injEq] at h
  obtain ⟨encoded, -, -, rfl⟩ := h
  have hread : ∀ k, k ≠ "signature" →
      ((boundReceipt world facade receipt transition).set "signature"
        (.str (facade.signer.signature encoded))).get? k =
      (((receipt.set "terminal_sequence" (Json.nat transition.sequence)).set
        "terminal_event_hash" (.str transition.eventHash)).set
        "key_id" (.str (facade.signer.keyId world))).get? k := by
    intro k hk
    rw [Dict.get?_set_of_ne _ _ hk, boundReceipt, Dict.get?_erase_of_ne _ hk]
  refine ⟨fun k hk => ?_, ?_, ?_⟩
  · simp only [List.mem_cons, List.not_mem_nil, or_false, not_or] at hk
    rw [hread k hk.1, Dict.get?_set_of_ne _ _ hk.2.1, Dict.get?_set_of_ne _ _ hk.2.2.1,
      Dict.get?_set_of_ne _ _ hk.2.2.2]
  · rw [hread _ (by decide), Dict.get?_set_of_ne _ _ (by decide),
      Dict.get?_set_of_ne _ _ (by decide), Dict.get?_set_self]
  · rw [hread _ (by decide), Dict.get?_set_of_ne _ _ (by decide), Dict.get?_set_self]

theorem parity_of_requireParity {receipt identity : Dict}
    (h : requireParity receipt identity = .ok ()) :
    ∀ field ∈ parityFields,
      Json.pyEqOption (receipt.get? field) (identity.get? field) = true := by
  intro field hfield
  unfold requireParity at h
  split at h
  · cases h
  · rename_i hnone
    simpa using List.find?_eq_none.mp hnone field hfield

variable {world : World} {L L' : Ledger} {w : String}

section Appends

variable {key : String} {actor : Dict} {locked : InstanceRow} {append : Append}
  {event : EventRow} {V V' : View}

theorem not_ended_of_settled {events : List EventRow} (h : Settled locked events)
    (hkind : locked.workflowKind = .execution) (hopen : locked.terminal = false) :
    ¬ Ended locked.currentState := fun hended =>
  not_isSink_of_settled h hopen (hkind ▸ isSink_of_ended hended)

theorem receipted_of_append {row : InstanceRow} {events : List EventRow}
    (hlocked : Receipted locked events) (hlive : ¬ Ended locked.currentState)
    (hstate : ¬ Ended row.currentState) (hevent : ¬ IsTerminalReceipt event) :
    Receipted row (events ++ [event]) where
  live := fun _ e he => by
    rcases List.mem_append.mp he with he | he
    · exact hlocked.live hlive e he
    · rw [List.mem_singleton.mp he]
      exact hevent
  ended := fun hended => absurd hended hstate

theorem receipted_of_planned {source : Option Operation}
    (hV : Receipted locked V.events) (hkind : locked.workflowKind = .execution)
    (hlive : ¬ Ended locked.currentState) (hplanned : Planned source locked append)
    (hloose : ∀ operation typed, source = some operation → typedOf operation = some typed →
      append.payload.get? "typed_receipt" = some typed.wrapped →
      typed.receiptType ≠ executionTerminalReceiptType)
    (h : AppendedTo world key actor locked append event V V')
    (deadline : Option Timestamp) :
    Receipted (appendedRow locked append event deadline) V'.events := by
  rw [h.events]
  refine receipted_of_append hV hlive ?_ ?_
  · change ¬ Ended (append.currentState.getD locked.currentState)
    cases hplanned with
    | moved target payload hsink _ _ _ _ =>
        exact fun hended => hsink hkind (isSink_of_ended hended)
    | admitted definition hkind' _ => simp [hkind] at hkind'
    | reEvaluated evaluation hkind' _ => simp [hkind] at hkind'
    | receipt typed _ => exact hlive
    | recorded append _ _ _ hstate _ _ _ => simpa [hstate] using hlive
    | cancelled reason => exact hlive
  · rintro ⟨htype, hpath⟩
    rw [h.eventType] at htype
    rw [h.payload] at hpath
    cases hplanned with
    | moved target payload _ _ _ _ htyped =>
        obtain ⟨typed, hsource, hget⟩ := htyped hkind
        rw [pathText_receiptMember typed hget] at hpath
        obtain ⟨typed, rfl, hname⟩ := Option.map_eq_some_iff.mp hpath
        exact hloose _ typed hsource rfl hget hname
    | admitted definition hkind' _ => simp [hkind] at hkind'
    | reEvaluated evaluation hkind' _ => simp [hkind] at hkind'
    | receipt typed htyped =>
        have hget := get?_receiptMember_typed typed
        rw [pathText_receiptMember (some typed) hget] at hpath
        have hname : typed.receiptType = _ := Option.some.inj hpath
        rcases htyped hkind with hsource | hother
        · exact hloose _ typed hsource rfl hget hname
        · exact hother hname
    | recorded append htransition _ _ _ _ _ _ => exact htransition htype
    | cancelled reason => cases htype

theorem receipted_of_rollover {successor : String} (hV : Receipted locked V.events)
    (hlive : ¬ Ended locked.currentState)
    (h : AppendedTo world key actor locked (rolloverAppend successor) event V V')
    (deadline : Option Timestamp) :
    Receipted (appendedRow locked (rolloverAppend successor) event deadline)
      V'.events := by
  rw [h.events]
  refine receipted_of_append hV hlive hlive fun hreceipt => ?_
  have htype := hreceipt.1
  rw [h.eventType] at htype
  cases htype

end Appends

/-! ## Calls -/

theorem receiptedOf_of_appended {key : String} {actor : Dict} {locked : InstanceRow}
    {append : Append} {event : EventRow}
    (h : Appended world key actor locked append event L L')
    (hL : ∀ w, ReceiptedOf (L.view w))
    (hown : locked.workflowKind = .execution → ∀ deadline,
      Receipted (appendedRow locked append event deadline)
        (L'.view locked.workflowId).events) :
    ∀ w, ReceiptedOf (L'.view w) := by
  refine forall_of_appended (P := fun _ => ReceiptedOf) h hL fun row hrow hkind => ?_
  obtain ⟨deadline, -, hadvanced⟩ := h.own.advanced
  cases hadvanced.symm.trans hrow
  exact hown hkind deadline

theorem receiptedOf_of_planned {source : Option Operation} {key : String} {actor : Dict}
    {locked : InstanceRow} {append : Append} {event : EventRow}
    (hsettled : ∀ w, SettledOf (L.view w)) (hplanned : Planned source locked append)
    (hloose : locked.workflowKind = .execution → ∀ operation typed,
      source = some operation → typedOf operation = some typed →
      append.payload.get? "typed_receipt" = some typed.wrapped →
      typed.receiptType ≠ executionTerminalReceiptType)
    (h : Appended world key actor locked append event L L')
    (hL : ∀ w, ReceiptedOf (L.view w)) : ∀ w, ReceiptedOf (L'.view w) :=
  receiptedOf_of_appended h hL fun hkind deadline =>
    receipted_of_planned (hL _ _ h.own.row hkind) hkind
      (not_ended_of_settled (hsettled _ _ h.own.row) hkind h.own.nonterminal) hplanned
      (hloose hkind) h.own deadline

theorem receiptedOf_of_planned_none {key : String} {actor : Dict} {locked : InstanceRow}
    {append : Append} {event : EventRow} (hsettled : ∀ w, SettledOf (L.view w))
    (hplanned : Planned none locked append)
    (h : Appended world key actor locked append event L L')
    (hL : ∀ w, ReceiptedOf (L.view w)) : ∀ w, ReceiptedOf (L'.view w) :=
  receiptedOf_of_planned hsettled hplanned (fun _ _ _ hsource => by cases hsource) h hL

theorem receiptedOf_of_opened {row : InstanceRow} {state : State}
    (h : Opened row state L L') (hevents : L.eventsOf row.workflowId = [])
    (hstate : ¬ Ended state) (hL : ∀ w, ReceiptedOf (L.view w)) :
    ∀ w, ReceiptedOf (L'.view w) := by
  refine forall_of_opened (P := fun _ => ReceiptedOf) h hL ?_
  rw [h.own, hevents]
  rintro _ ⟨⟩ -
  refine ⟨by simp, fun hended => absurd ?_ hstate⟩
  rwa [h.fresh.currentState] at hended

theorem not_ended_initialState (kind : WorkflowKind) : ¬ Ended (initialState kind) := by
  cases kind <;> simp [Ended, initialState]

theorem receiptedOf_of_sameViews (h : SameViews L L') (hL : ∀ w, ReceiptedOf (L.view w))
    (w : String) : ReceiptedOf (L'.view w) := by
  rw [h w]
  exact hL w

theorem loose_of_operation {ctx : Context} {input : AppendInput} {operation : Operation}
    (hp : ReceiptsBound L ctx (.append input operation)) {locked : InstanceRow}
    {append : Append} {event : EventRow}
    (hrow : L.row? (operation.seam world ctx.facade input).workflowId = some locked)
    (hseq : (locked.currentSequence : Int) =
      (operation.seam world ctx.facade input).expectedSequence)
    (hprecheck : (operation.seam world ctx.facade input).precheck L = .ok ())
    (hplan : (operation.seam world ctx.facade input).plan L locked = .ok append)
    (happended : Appended world (operation.seam world ctx.facade input).idempotencyKey
      (operation.seam world ctx.facade input).actor locked append event L L')
    (hkind : locked.workflowKind = .execution) {typed : TypedReceipt}
    (htyped : typedOf operation = some typed) :
    typed.receiptType ≠ executionTerminalReceiptType := by
  have hfresh := happended.own.fresh
  rw [workflowId_of_row? hrow] at hfresh
  cases operation with
  | appendTransition targetState typed? =>
      cases htyped
      simp only [Operation.seam, appendTransition, appendTransitionForKind, bind_eq_ok,
        exists_unit, check_eq_ok] at hrow hseq hplan hfresh
      obtain ⟨_, -, -, hvalid, -⟩ := hplan
      exact hp.generic input _ typed locked rfl rfl hrow hkind happended.own.nonterminal
        hseq hfresh hvalid
  | appendTypedReceipt typed? =>
      cases htyped
      exact hp.generic input _ typed locked rfl rfl hrow hkind happended.own.nonterminal
        hseq hfresh hprecheck
  | _ => cases htyped

theorem receipted_of_terminated {facade : Facade} {key : String} {actor receipt signed : Dict}
    {locked : InstanceRow} {target : State} {first second : EventRow}
    {V V₁ V' : View} {deadline : Option Timestamp}
    (hV : Receipted locked V.events) (hlive : ¬ Ended locked.currentState)
    (hended : Ended target)
    (hfirst : AppendedTo world (key ++ ":transition") actor locked
      (terminalTransition locked target) first V V₁)
    (hparity : requireParity receipt locked.semanticIdentity = .ok ())
    (hsigned : signReceipt world facade receipt first = .ok signed)
    (hstate : receipt.get? "terminal_state" = some (.str target.name))
    {after : InstanceRow}
    (hafter : after = appendedRow locked (terminalTransition locked target) first deadline)
    (hsecond : AppendedTo world (key ++ ":receipt") actor after
      (terminalReceipt target signed) second V₁ V') (deadline' : Option Timestamp) :
    Receipted (appendedRow after (terminalReceipt target signed) second deadline')
      V'.events := by
  obtain ⟨hread, hsequence, hhash⟩ := get?_of_signReceipt hsigned
  have hcurrent : (appendedRow after (terminalReceipt target signed) second
      deadline').currentState = target := rfl
  have htyped : second.payload.get? "typed_receipt" =
      (some (TypedReceipt.mk executionTerminalReceiptType signed)).map
        TypedReceipt.wrapped := by
    rw [hsecond.payload]
    exact get?_receiptMember_typed _
  refine ⟨fun hnot => absurd (hcurrent ▸ hended) hnot, fun _ =>
    ⟨V.events, first, second, signed, ?_, ?_⟩⟩
  · rw [hsecond.events, hfirst.events, List.append_assoc]
    rfl
  constructor
  case others =>
    intro e he
    rcases List.mem_append.mp he with he | he
    · exact hV.live hlive e he
    · rw [List.mem_singleton.mp he]
      rintro ⟨-, hpath⟩
      rw [hfirst.payload] at hpath
      simp [terminalTransition, transitionPayload, pathText, Dict.get?_cons] at hpath
  case closing =>
    exact ⟨hsecond.eventType, pathText_receiptMember _ htyped⟩
  case receipt =>
    simp only [storedReceipt, bind_eq_ok, dictItem_eq_ok, htyped]
    refine ⟨_, rfl, ?_⟩
    simp [Dict.get?_cons]
  case transition => exact hfirst.eventType
  case target =>
    rw [hfirst.payload, hcurrent]
    exact get?_transitionPayload_to _ _ []
  case parity =>
    intro field hfield
    have hother : field ∉
        ["signature", "key_id", "terminal_event_hash", "terminal_sequence"] := by
      intro hmem
      revert hfield
      simp only [List.mem_cons, List.not_mem_nil, or_false] at hmem
      rcases hmem with rfl | rfl | rfl | rfl <;> decide
    rw [hread field hother, hafter]
    exact parity_of_requireParity hparity field hfield
  case terminalSequence => exact hsequence
  case terminalEventHash => exact hhash
  case terminalState =>
    rw [hread _ (by decide), hstate, hcurrent]

theorem fresh_of_prefix {events events' : List EventRow} {key : String}
    (hgrowing : events <+: events')
    (h : Library.Table.lookup EventRow.idempotencyKey key events' = none) :
    Library.Table.lookup EventRow.idempotencyKey key events = none := by
  rw [Library.Table.lookup_eq_none_iff] at h ⊢
  exact fun hmem => h (List.map_subset _ hgrowing.subset hmem)

theorem receiptedOf_of_effect (hreach : Reachable world L)
    (hdigests : TransitionDigests world L) {ctx : Context} {call : Call}
    (hp : ReceiptsBound L ctx call) (hL : ∀ w, ReceiptedOf (L.view w))
    (h : Effect world ctx call L L') : ∀ w, ReceiptedOf (L'.view w) := by
  have hsettled : ∀ w, SettledOf (L.view w) := fun w row hrow =>
    settled_of_reachable hreach hrow
  cases h with
  | kept h => exact receiptedOf_of_sameViews h hL
  | opened row hopened _ =>
      exact receiptedOf_of_opened hopened (eventsOf_of_absent hreach hopened.absent)
        (not_ended_initialState _) hL
  | founded row append event key actor L₁ hopened hplanned _ happended _ =>
      have hevents := eventsOf_of_absent hreach hopened.absent
      exact receiptedOf_of_planned_none
        (settledOf_of_opened hopened hevents (not_isSink_initialState _) hsettled)
        hplanned happended
        (receiptedOf_of_opened hopened hevents (not_ended_initialState _) hL)
  | operated h =>
      refine keeps_of_seamEffect (P := fun M => ∀ w, ReceiptedOf (M.view w))
        (fun _ _ => receiptedOf_of_sameViews) (fun locked append event M hrow hseq
          hprecheck hkind hplan happended => ?_) h hL
      refine receiptedOf_of_planned hsettled (planned_of_plan _ hkind hplan)
        (fun hexecution operation typed hsource htyped _ => ?_) happended hL
      cases hsource
      exact loose_of_operation hp hrow hseq hprecheck hplan happended hexecution htyped
  | cancelled L₁ hrequest htransition =>
      have hkeeps : ∀ {M M' : Ledger} {seam : Seam},
          (∀ locked append, seam.kindCheck locked = .ok () →
            seam.plan M locked = .ok append → Planned none locked append) →
          SeamEffect world seam M M' →
          (∀ w, SettledOf (M.view w)) ∧ (∀ w, ReceiptedOf (M.view w)) →
          (∀ w, SettledOf (M'.view w)) ∧ ∀ w, ReceiptedOf (M'.view w) := by
        intro M M' seam hplanned heffect hM
        refine ⟨settledOf_of_seamEffect hplanned heffect hM.1, ?_⟩
        exact keeps_of_seamEffect (P := fun M => ∀ w, ReceiptedOf (M.view w))
          (fun _ _ => receiptedOf_of_sameViews)
          (fun locked append _ _ _ _ _ hkind hplan happended =>
            receiptedOf_of_planned_none hM.1 (hplanned locked append hkind hplan)
              happended hM.2) heffect hM.2
      exact (hkeeps (fun _ _ => planned_of_iteration_transition none _ _ _ _) htransition
        (hkeeps (fun _ _ _ hplan => planned_of_cancellationRequest hplan) hrequest
          ⟨hsettled, hL⟩)).2
  | superseded locked event _ _ hplanned happended =>
      exact receiptedOf_of_planned_none hsettled hplanned happended hL
  | intended locked payload event key actor _ _ happended =>
      exact receiptedOf_of_planned_none hsettled (planned_of_intent locked payload)
        happended hL
  | @terminated input targetState receipt _ _ locked after target signed first second L₁
      hrow _ hkind hopen hname htarget hsink hparity hfirst hsigned hafter hsecond =>
      have hnew := appended_of_terminalTransition hreach hdigests hrow hopen hkind hsink
        hfirst
      obtain ⟨deadline, -, hadvanced⟩ := hnew.own.advanced
      have hlocked := workflowId_of_row? hrow
      have hid : after.workflowId = locked.workflowId :=
        (workflowId_of_row? hafter).trans hlocked.symm
      have hafter' : after = appendedRow locked (terminalTransition locked target) first
          deadline := by
        rw [hlocked] at hadvanced
        cases hadvanced.symm.trans hafter
        rfl
      have hsecondOwn := hsecond.own
      have hfresh := hsecondOwn.fresh
      rw [hid] at hsecondOwn hfresh
      have hnone := fresh_of_prefix
        (hnew.own.events ▸ List.prefix_append _ _ :
          (L.view locked.workflowId).events <+: (L₁.view locked.workflowId).events) hfresh
      rw [hlocked] at hnone
      have hstate := hp.terminal input targetState receipt rfl hnone
      rw [← hname] at hstate
      intro w
      by_cases hw : w = after.workflowId
      · subst hw
        intro row hlast hexecution
        obtain ⟨deadline', -, hlast'⟩ := hsecond.own.advanced
        cases hlast'.symm.trans hlast
        rw [hid]
        exact receipted_of_terminated (hL _ _ hnew.own.row hkind)
          (not_ended_of_settled (hsettled _ _ hnew.own.row) hkind hopen)
          (ended_of_successor htarget hsink) hnew.own hparity hsigned hstate hafter'
          hsecondOwn deadline'
      · rw [hsecond.frame w hw, hnew.frame w (hid ▸ hw)]
        exact hL w
  | rolledOver locked row event L₁ hrow _ hopen happended hopened hidentity _ =>
      obtain ⟨hnew, hkind, -, -, hview⟩ := successor_of_rollover hreach hrow (hsettled _)
        hopen happended hopened hidentity
      have hV := hsettled _ _ hnew.own.row
      have hL₁ := receiptedOf_of_appended hnew hL fun hexecution deadline =>
        receipted_of_rollover (hL _ _ hnew.own.row hexecution)
          (not_ended_of_settled hV hexecution hopen) hnew.own deadline
      refine forall_of_opened (P := fun _ => ReceiptedOf) hopened hL₁ ?_
      rw [hopened.own]
      rintro _ ⟨⟩ hexecution
      have hlive := not_ended_of_settled hV (hkind ▸ hexecution) hopen
      have hevents : L₁.eventsOf row.workflowId = [] := congrArg View.events hview
      rw [← hopened.fresh.currentState] at hlive
      exact ⟨fun _ => by simp [hevents], fun hended => absurd hended hlive⟩

theorem receiptedOf_of_reachable (hL : RunWhere world ReceiptsBound Ledger.empty L)
    (hdigests : TransitionDigests world L) (w : String) : ReceiptedOf (L.view w) := by
  refine invariant_of_reachable
    (P := fun M => TransitionDigests world M → ∀ w, ReceiptedOf (M.view w))
    (fun M ctx call M' hreach hM hp heffect hdigests' => ?_) hL
    (fun _ _ _ hrow => by cases hrow) hdigests w
  have hdigests := transitionDigests_of_prefix
    (eventsOf_prefix_of_writes (writes_of_effect heffect)) hdigests'
  exact receiptedOf_of_effect hreach hdigests hp (hM hdigests) heffect

end MindscapeLocalCore.DurableState.ExecutionReceipts
