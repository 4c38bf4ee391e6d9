import MindscapeLocalCore.DurableState.Chain
import MindscapeLocalCore.DurableState.RolloverRuns

/-!
The terminal flag: what it says about a workflow's state and events, and that
nothing happens to a workflow that carries it.
-/

namespace MindscapeLocalCore.DurableState.Terminal

open Library.Guarded Library.Json Library.Table AppendEffects CallEffects Calls CanonicalJson Chain
open Errors ExecutionRuns Facade FacadeAppend ProductIterations Records Records.Ledger Reducers
open Repository RolloverRuns Samples SingleWorkflow TerminalReceipts Transitions

/-- The terminal flag is set in a sink state and after a rollover, and only there. -/
structure Settled (row : InstanceRow) (events : List EventRow) : Prop where
  flag : row.terminal = true ↔ IsSink row.workflowKind row.currentState ∨
    ∃ e, events.getLast? = some e ∧ e.eventType = .segmentRollover
  rolled : ∀ e ∈ events, e.eventType = .segmentRollover → row.terminal = true
  sunk : ∀ e ∈ events, e.eventType = .transition → ∀ t : State,
    e.payload.get? "to_state" = some (.str t.name) →
      IsSink row.workflowKind t → row.terminal = true
  kind : kindOf row.semanticIdentity = .ok row.workflowKind

def SettledOf (V : View) : Prop := ∀ row, V.row = some row → Settled row V.events

theorem settled_of_freshRow {row : InstanceRow} {state : State}
    (h : FreshRow row state) (hstate : ¬ IsSink row.workflowKind state) :
    Settled row [] where
  flag := by simp [h.terminal, h.currentState, hstate]
  rolled := by simp
  sunk := by simp
  kind := h.kind

theorem not_isSink_of_settled {row : InstanceRow} {events : List EventRow}
    (h : Settled row events) (hopen : row.terminal = false) :
    ¬ IsSink row.workflowKind row.currentState := fun hsink => by
  have hterminal := h.flag.mpr (.inl hsink)
  simp [hopen] at hterminal

theorem settled_of_append {locked row : InstanceRow} {events : List EventRow}
    {e : EventRow} (hlocked : Settled locked events)
    (hopen : locked.terminal = false)
    (hkind : kindOf row.semanticIdentity = .ok row.workflowKind)
    (hsame : row.workflowKind = locked.workflowKind)
    (hflag : row.terminal = true ↔ IsSink row.workflowKind row.currentState ∨
      e.eventType = .segmentRollover)
    (hsunk : e.eventType = .transition → ∀ t : State,
      e.payload.get? "to_state" = some (.str t.name) →
        IsSink row.workflowKind t → row.terminal = true) :
    Settled row (events ++ [e]) := by
  constructor
  case flag => simpa using hflag
  case rolled =>
    intro e' he' htype
    rcases List.mem_append.mp he' with he' | he'
    · have hterminal := hlocked.rolled e' he' htype
      simp [hopen] at hterminal
    · rw [List.mem_singleton.mp he'] at htype
      exact hflag.mpr (.inr htype)
  case sunk =>
    intro e' he' htype t hto hsink
    rcases List.mem_append.mp he' with he' | he'
    · have hterminal := hlocked.sunk e' he' htype t hto (hsame ▸ hsink)
      simp [hopen] at hterminal
    · rw [List.mem_singleton.mp he'] at htype hto
      exact hsunk htype t hto hsink
  case kind => exact hkind

variable {world : World} {L L' : Ledger}

section Appends

variable {key : String} {actor : Dict} {locked : InstanceRow} {append : Append}
  {event : EventRow} {V V' : View}

theorem state_of_text {s t : State} (h : some (Json.str s.name) = some (.str t.name)) :
    s = t := by
  simp only [Option.some.injEq, Json.str.injEq] at h
  exact State.name_injective h

theorem get?_receiptMember_to (typed : TypedReceipt) :
    Dict.get? (receiptMember (some typed)) "to_state" = none := by
  simp [receiptMember, Dict.get?_cons]

theorem settled_of_planned {source : Option Operation} (hV : Settled locked V.events)
    (hplanned : Planned source locked append)
    (h : AppendedTo world key actor locked append event V V')
    (deadline : Option Timestamp) :
    Settled (appendedRow locked append event deadline) V'.events := by
  have hopen := h.nonterminal
  have hlive := not_isSink_of_settled hV hopen
  rw [h.events]
  refine settled_of_append hV hopen hV.kind rfl ?_ ?_
  · rw [h.eventType]
    cases hplanned with
    | moved target payload hsink htarget hfrom hto _ => simp [appendedRow, advancedRow]
    | admitted definition hkind _ =>
        have hnot : ¬ IsSink .productIteration .admitted := by decide
        simp [appendedRow, advancedRow, admission, hopen, hkind, hnot]
    | reEvaluated evaluation hkind hstate =>
        have hnot : ¬ IsSink .productIteration .decisionPending := by decide
        simp [appendedRow, advancedRow, reEvaluation, hopen, hkind, hnot]
    | receipt typed _ => simp [appendedRow, advancedRow, hopen, hlive]
    | recorded append htransition hcancellation hrollover hstate hterminal hcancel _ =>
        simp [appendedRow, advancedRow, hstate, hterminal, hopen, hlive, hrollover]
    | cancelled reason => simp [appendedRow, advancedRow, hopen, hlive]
  · rw [h.eventType, h.payload]
    intro htype t hto hsink
    cases hplanned with
    | moved target payload _ htarget hfrom hmoved _ =>
        have ht : target = t := state_of_text (hmoved.symm.trans hto)
        subst ht
        simpa [appendedRow, advancedRow] using hsink
    | admitted definition hkind _ =>
        have ht : State.admitted = t := state_of_text
          ((get?_transitionPayload_to _ _ _).symm.trans hto)
        subst ht
        change IsSink locked.workflowKind _ at hsink
        rw [hkind] at hsink
        exact absurd hsink (by decide)
    | reEvaluated evaluation hkind hstate =>
        have ht : State.decisionPending = t := state_of_text
          ((get?_transitionPayload_to _ _ _).symm.trans hto)
        subst ht
        change IsSink locked.workflowKind _ at hsink
        rw [hkind] at hsink
        exact absurd hsink (by decide)
    | receipt typed _ =>
        simp [get?_receiptMember_to] at hto
    | recorded append htransition hcancellation hrollover hstate hterminal hcancel _ =>
        exact absurd htype htransition
    | cancelled reason => cases htype

theorem settled_of_closed {target : State} {signed : Dict}
    (hkind : kindOf locked.semanticIdentity = .ok locked.workflowKind)
    (hexecution : locked.workflowKind = .execution) (hsink : IsSink .execution target)
    (events : List EventRow) (deadline : Option Timestamp) :
    Settled (appendedRow locked (terminalReceipt target signed) event deadline)
      events where
  flag := by simp [appendedRow, advancedRow, terminalReceipt, hexecution, hsink]
  rolled := fun _ _ _ => rfl
  sunk := fun _ _ _ _ _ _ => rfl
  kind := hkind

theorem settled_of_rollover {successor : String} (hV : Settled locked V.events)
    (h : AppendedTo world key actor locked (rolloverAppend successor) event V V')
    (deadline : Option Timestamp) :
    Settled (appendedRow locked (rolloverAppend successor) event deadline)
      V'.events := by
  have htype : event.eventType = .segmentRollover := h.eventType
  rw [h.events]
  refine settled_of_append hV h.nonterminal hV.kind rfl ?_ fun _ _ _ _ => rfl
  simp [appendedRow, advancedRow, rolloverAppend, htype]

end Appends

/-! ## Calls -/

theorem settledOf_of_appended {key : String} {actor : Dict} {locked : InstanceRow}
    {append : Append} {event : EventRow}
    (h : Appended world key actor locked append event L L')
    (hL : ∀ w, SettledOf (L.view w))
    (hown : ∀ deadline, Settled (appendedRow locked append event deadline)
      (L'.view locked.workflowId).events) :
    ∀ w, SettledOf (L'.view w) := by
  refine forall_of_appended (P := fun _ => SettledOf) h hL fun row hrow => ?_
  obtain ⟨deadline, -, hadvanced⟩ := h.own.advanced
  cases hadvanced.symm.trans hrow
  exact hown deadline

theorem settledOf_of_planned {source : Option Operation} {key : String} {actor : Dict} {locked : InstanceRow}
    {append : Append} {event : EventRow} (hplanned : Planned source locked append)
    (h : Appended world key actor locked append event L L')
    (hL : ∀ w, SettledOf (L.view w)) : ∀ w, SettledOf (L'.view w) :=
  settledOf_of_appended h hL fun deadline =>
    settled_of_planned (hL _ _ h.own.row) hplanned h.own deadline

theorem settledOf_of_opened {row : InstanceRow} {state : State}
    (h : Opened row state L L') (hevents : L.eventsOf row.workflowId = [])
    (hstate : ¬ IsSink row.workflowKind state) (hL : ∀ w, SettledOf (L.view w)) :
    ∀ w, SettledOf (L'.view w) := by
  refine forall_of_opened (P := fun _ => SettledOf) h hL ?_
  rw [h.own, hevents]
  rintro _ ⟨⟩
  exact settled_of_freshRow h.fresh hstate

theorem settledOf_of_sameViews (h : SameViews L L')
    (hL : ∀ w, SettledOf (L.view w)) (w : String) : SettledOf (L'.view w) := by
  rw [h w]
  exact hL w

theorem settledOf_of_seamEffect {source : Option Operation} {seam : Seam}
    (hplanned : ∀ locked append, seam.kindCheck locked = .ok () →
      seam.plan L locked = .ok append → Planned source locked append)
    (h : SeamEffect world seam L L') (hL : ∀ w, SettledOf (L.view w)) :
    ∀ w, SettledOf (L'.view w) :=
  keeps_of_seamEffect (P := fun M => ∀ w, SettledOf (M.view w))
    (fun _ _ => settledOf_of_sameViews)
    (fun locked append _ _ _ _ _ hkind hplan happended =>
      settledOf_of_planned (hplanned locked append hkind hplan) happended hL) h hL

theorem eventsOf_of_absent (hL : Reachable world L) {w : String}
    (habsent : L.row? w = none) : L.eventsOf w = [] :=
  congrArg View.events (view_of_absent hL habsent)

theorem kindOf_successorIdentity (locked : InstanceRow)
    (successor eventHash : String) :
    kindOf (successorIdentity locked successor eventHash) =
      kindOf locked.semanticIdentity := by
  have hget : (successorIdentity locked successor eventHash).get? "workflow_kind" =
      locked.semanticIdentity.get? "workflow_kind" :=
    Dict.get?_update_of_notMem _ _ (by simp)
  simp only [kindOf, textItem, item, hget]

theorem successor_of_rollover {w key successor : String} {actor : Dict}
    {locked row : InstanceRow} {event : EventRow} {L₁ : Ledger}
    (hreach : Reachable world L) (hrow : L.row? w = some locked)
    (hsettled : SettledOf (L.view w)) (hopen : locked.terminal = false)
    (happended : AppendEffect world key actor locked (rolloverAppend successor) event
      L L₁)
    (hopened : Opened row locked.currentState L₁ L')
    (hidentity : row.semanticIdentity =
      successorIdentity locked successor event.eventHash) :
    Appended world key actor locked (rolloverAppend successor) event L L₁ ∧
      row.workflowKind = locked.workflowKind ∧ row.workflowId ≠ w ∧
      L.row? row.workflowId = none ∧
      L₁.view row.workflowId = ⟨none, [], none⟩ := by
  have hV := hsettled locked hrow
  have hlocked := workflowId_of_row? hrow
  have hnew : Appended world key actor locked (rolloverAppend successor) event L L₁ := by
    cases happended with
    | appended happended => exact happended
    | repeated hrepeated =>
        -- an open workflow has no rollover event that could be repeated
        have hmem : event ∈ L.eventsOf w := hlocked ▸ mem_of_lookup hrepeated.stored
        have hterminal := hV.rolled event hmem hrepeated.eventType
        simp [hopen] at hterminal
  have hkind : row.workflowKind = locked.workflowKind := by
    have hkindOf := hopened.fresh.kind
    rw [hidentity, kindOf_successorIdentity, hV.kind] at hkindOf
    simpa using hkindOf.symm
  have hother : row.workflowId ≠ locked.workflowId := fun heq => by
    obtain ⟨deadline, -, hadvanced⟩ := hnew.own.advanced
    have habsent := hopened.absent
    rw [heq] at habsent
    exact absurd (hadvanced.symm.trans habsent) (by simp)
  have hview := hnew.frame _ hother
  have habsent : L.row? row.workflowId = none :=
    (congrArg View.row hview).symm.trans hopened.absent
  exact ⟨hnew, hkind, hlocked ▸ hother, habsent,
    hview.trans (view_of_absent hreach habsent)⟩

theorem settledOf_of_effect {ctx : Context} {call : Call} (hreach : Reachable world L)
    (hL : ∀ w, SettledOf (L.view w)) (h : Effect world ctx call L L') :
    ∀ w, SettledOf (L'.view w) := by
  cases h with
  | kept h => exact settledOf_of_sameViews h hL
  | opened row hopened _ =>
      exact settledOf_of_opened hopened (eventsOf_of_absent hreach hopened.absent)
        (not_isSink_initialState _) hL
  | founded row append event key actor L₁ hopened hplanned htype happended _ =>
      exact settledOf_of_planned hplanned happended
        (settledOf_of_opened hopened (eventsOf_of_absent hreach hopened.absent)
          (not_isSink_initialState _) hL)
  | operated h =>
      exact settledOf_of_seamEffect (fun _ _ => planned_of_plan _) h hL
  | cancelled L₁ hrequest htransition =>
      exact settledOf_of_seamEffect
        (fun _ _ => planned_of_iteration_transition none _ _ _ _) htransition
        (settledOf_of_seamEffect
          (fun _ _ _ hplan => planned_of_cancellationRequest hplan) hrequest hL)
  | superseded locked event hrow hseq hplanned happended =>
      exact settledOf_of_planned hplanned happended hL
  | intended locked payload event key actor _ hkind happended =>
      exact settledOf_of_planned (planned_of_intent locked payload) happended hL
  | terminated locked after target signed first second L₁ hrow hseq hkind hnonterminal
      hname htarget hsink hparity hfirst hsigned hafter hsecond =>
      obtain ⟨hsame, hidentity⟩ := identity_of_appendEffect hrow hafter hfirst
      have hkindOf : kindOf after.semanticIdentity = .ok after.workflowKind := by
        rw [hidentity, hsame]
        exact (hL _ _ hrow).kind
      have hid : after.workflowId = locked.workflowId :=
        (workflowId_of_row? hafter).trans (workflowId_of_row? hrow).symm
      intro w
      by_cases hw : w = after.workflowId
      · subst hw
        intro row hlast
        obtain ⟨deadline, -, hadvanced⟩ := hsecond.own.advanced
        cases hadvanced.symm.trans hlast
        exact settled_of_closed hkindOf (hsame.trans hkind) hsink _ deadline
      · rw [hsecond.frame w hw, frame_of_appendEffect hfirst (hid ▸ hw)]
        exact hL w
  | rolledOver locked row event L₁ hrow _ hopen happended hopened hidentity _ =>
      obtain ⟨hnew, hkind, -, -, hview⟩ := successor_of_rollover hreach hrow (hL _) hopen
        happended hopened hidentity
      have hV := hL _ _ hnew.own.row
      refine settledOf_of_opened hopened (congrArg View.events hview) ?_
        (settledOf_of_appended hnew hL fun deadline =>
          settled_of_rollover hV hnew.own deadline)
      rw [hkind]
      exact not_isSink_of_settled hV hopen

theorem settled_of_reachable (hL : Reachable world L) {w : String} {row : InstanceRow}
    (hrow : L.row? w = some row) : Settled row (L.eventsOf w) :=
  invariant_of_reachable (P := fun M => ∀ w, SettledOf (M.view w))
    (fun _ _ _ _ hreach hM _ heffect => settledOf_of_effect hreach hM heffect) hL
    (fun _ _ h => by cases h) w row hrow

/-! ## The transition of an execution terminal -/

def TransitionDigests (world : World) (L : Ledger) : Prop :=
  ∀ w, ∀ e ∈ L.eventsOf w, e.eventType = .transition → ∀ s t : State,
    sha256Hex world (.obj (transitionPayload s.name t.name)) = .ok e.payloadSha256 →
      e.payload = transitionPayload s.name t.name

theorem transitionDigests_of_prefix
    (hgrowing : ∀ w, L.eventsOf w <+: L'.eventsOf w)
    (h : TransitionDigests world L') : TransitionDigests world L :=
  fun w e he => h w e ((hgrowing w).subset he)

theorem transitionDigests_of_none (h : ∀ e ∈ L.events, e.eventType ≠ .transition) :
    TransitionDigests world L := fun _ e he htype =>
  absurd htype (h e (List.mem_of_mem_filter he))

theorem appended_of_terminalTransition {w key : String} {actor : Dict}
    {locked : InstanceRow} {target : State} {first : EventRow}
    (hL : Reachable world L) (hdigests : TransitionDigests world L)
    (hrow : L.row? w = some locked) (hopen : locked.terminal = false)
    (hkind : locked.workflowKind = .execution) (hsink : IsSink .execution target)
    (h : AppendEffect world key actor locked (terminalTransition locked target) first
      L L') :
    Appended world key actor locked (terminalTransition locked target) first L L' := by
  cases h with
  | appended happended => exact happended
  | repeated hrepeated =>
      have hmem : first ∈ L.eventsOf w := by
        have hstored := hrepeated.stored
        rw [workflowId_of_row? hrow] at hstored
        exact mem_of_lookup hstored
      have hpayload : first.payload = _ :=
        hdigests w first hmem hrepeated.eventType _ target hrepeated.payloadSha256
      have hterminal := (settled_of_reachable hL hrow).sunk first hmem
        hrepeated.eventType target (by rw [hpayload]; exact get?_transitionPayload_to _ _ [])
        (hkind ▸ hsink)
      simp [hopen] at hterminal

/-! ## A terminal workflow is frozen -/

theorem frozen_of_write {w : String} {row : InstanceRow} (hrow : L.row? w = some row)
    (hterminal : row.terminal = true) (h : Write world L L') :
    L'.view w = L.view w := by
  cases h with
  | kept h => exact h w
  | opened fresh state h =>
      refine h.frame w fun heq => ?_
      rw [heq, h.absent] at hrow
      cases hrow
  | appended key actor locked append event hcatalogue h =>
      refine h.frame w fun heq => ?_
      have hlocked := h.own.row
      rw [heq] at hrow
      cases hrow.symm.trans hlocked
      simp [h.own.nonterminal] at hterminal

theorem frozen_of_writes {w : String} {row : InstanceRow} (hrow : L.row? w = some row)
    (hterminal : row.terminal = true) (h : Writes world L L') :
    L'.view w = L.view w := by
  induction h with
  | refl => rfl
  | tail _ hlast ih =>
      have hrow' := (congrArg View.row ih).trans hrow
      exact (frozen_of_write hrow' hterminal hlast).trans ih

def RepliesStored (L : Ledger) (w : String) : Reply → Prop
  | .event event => event ∈ L.eventsOf w
  | .instance successor => ∃ event ∈ L.eventsOf w,
      event.eventType = .segmentRollover ∧
        event.payload.get? "successor_workflow_id" =
          some (.str successor.workflowId) ∧
        L.row? successor.workflowId = some successor
  | .receipt receipt => ∃ event ∈ L.eventsOf w, storedReceipt event = .ok receipt

section Replies

variable {ctx : Context} {w : String} {row : InstanceRow}

theorem not_appendLocked (hterminal : row.terminal = true) {facade : Facade}
    {draw : Events.Draw} {key : String} {actor : Dict} {append : Append}
    {event : EventRow} (h : appendLocked world facade draw row key actor append L =
      .ok (event, L')) : False := by
  simp only [appendLocked, bind_eq_ok, exists_unit, require_eq_ok] at h
  simp [hterminal] at h

theorem stored_of_seam {seam : Seam} {facade : Facade} {draw : Events.Draw}
    {event : EventRow} (hrow : L.row? seam.workflowId = some row)
    (hterminal : row.terminal = true)
    (h : seam.run world facade draw L = .ok (event, L')) :
    L' = L ∧ event ∈ L.eventsOf seam.workflowId := by
  obtain ⟨-, houtcome⟩ := AppendEffects.Seam.run_eq_ok.mp h
  cases houtcome with
  | retried locked _ _ _ hprior _ hsame => exact ⟨hsame, mem_of_lookup hprior⟩
  | planned locked append L₁ hlocked _ _ _ happend _ =>
      cases hrow.symm.trans hlocked
      exact (not_appendLocked hterminal happend).elim

theorem stored_of_exec {call : Call} {reply : Reply} (hw : call.workflow? = some w)
    (hrow : L.row? w = some row) (hterminal : row.terminal = true)
    (h : exec world ctx call L = .ok (reply, L')) :
    L' = L ∧ RepliesStored L w reply := by
  cases call with
  | append input operation =>
      obtain ⟨event, hcall, rfl⟩ := replying_eq_ok.mp h
      have hinput : (operation.seam world ctx.facade input).workflowId = w := by
        cases hw
        cases operation <;> rfl
      obtain ⟨rfl, hmem⟩ := stored_of_seam (hinput ▸ hrow) hterminal hcall
      exact ⟨rfl, hinput ▸ hmem⟩
  | rolloverSegment input successor =>
      cases hw
      obtain ⟨next, hcall, rfl⟩ := replying_eq_ok.mp h
      simp only [rolloverSegment, bind_eq_ok] at hcall
      obtain ⟨⟨locked, retry⟩, hbegin, hcall⟩ := hcall
      obtain ⟨hlocked, ⟨-, rfl⟩ | ⟨-, prior, hprior, hretry, rfl⟩⟩ :=
        beginAppend_eq_ok.mp hbegin
      · cases hrow.symm.trans hlocked
        simp only [bind_eq_ok, exists_unit] at hcall
        obtain ⟨-, _, happend, -⟩ := hcall
        exact (not_appendLocked hterminal happend).elim
      · simp only [bind_eq_ok, check_eq_ok, pure_eq_ok, Except.ok.injEq,
          Prod.mk.injEq, readInstance_eq_ok] at hcall
        obtain ⟨found, hfound, rfl, rfl⟩ := hcall
        simp only [Bool.and_eq_true, decide_eq_true_eq, isText_iff] at hretry
        have hname := workflowId_of_row? hfound
        refine ⟨rfl, prior, mem_of_lookup hprior, hretry.1.1, ?_, ?_⟩
        · rw [hname]
          exact hretry.2
        · rw [hname]
          exact hfound
  | appendExecutionTerminal input targetState receipt =>
      cases hw
      obtain ⟨signed, hcall, rfl⟩ := replying_eq_ok.mp h
      unfold appendExecutionTerminal at hcall
      split at hcall
      · rename_i existing hexisting
        simp only [bind_eq_ok, exists_unit, check_eq_ok, pure_eq_ok, Except.ok.injEq,
          Prod.mk.injEq] at hcall
        obtain ⟨stored, hstored, -, rfl, rfl⟩ := hcall
        exact ⟨rfl, existing, mem_of_lookup hexisting, hstored⟩
      · simp only [appendFreshTerminal, bind_eq_ok, exists_unit, check_eq_ok,
          lockInstance_eq_ok] at hcall
        obtain ⟨locked, hlocked, -, -, ⟨target, terminal⟩, -, -, -, _, happend, -⟩ := hcall
        cases hrow.symm.trans hlocked
        exact (not_appendLocked hterminal happend).elim
  | cancelProductIteration input reason =>
      cases hw
      obtain ⟨event, hcall, rfl⟩ := replying_eq_ok.mp h
      simp only [cancelProductIteration, bind_eq_ok] at hcall
      obtain ⟨⟨request, L₁⟩, hrequest, htransition⟩ := hcall
      obtain ⟨rfl, -⟩ := stored_of_seam hrow hterminal hrequest
      exact stored_of_seam hrow hterminal htransition
  | supersedeProductIteration input successor =>
      cases hw
      obtain ⟨event, hcall, rfl⟩ := replying_eq_ok.mp h
      simp only [supersedeProductIteration, bind_eq_ok, exists_unit, check_eq_ok,
        lockInstance_eq_ok] at hcall
      obtain ⟨source, hsource, other, -, -, _, -, happend⟩ := hcall
      cases hrow.symm.trans hsource
      exact (not_appendLocked hterminal happend).elim
  | appendOutcomeEvaluationIntent intent =>
      obtain ⟨event, hcall, rfl⟩ := replying_eq_ok.mp h
      simp only [appendOutcomeEvaluationIntent, bind_eq_ok, exists_unit, check_eq_ok,
        lockInstance_eq_ok, item_eq_ok] at hcall
      obtain ⟨-, iterationId, hiteration, key, -, locked, hlocked, -, -, payload, -, hcall⟩ :=
        hcall
      have hid : textOf iterationId = w := by
        simpa [Call.workflow?, hiteration] using hw
      rw [hid] at hlocked hcall
      cases hrow.symm.trans hlocked
      split at hcall
      · rename_i prior hprior
        simp only [bind_eq_ok, exists_unit, pure_eq_ok, Except.ok.injEq,
          Prod.mk.injEq] at hcall
        obtain ⟨-, rfl, rfl⟩ := hcall
        exact ⟨rfl, mem_of_lookup hprior⟩
      · exact (not_appendLocked hterminal hcall).elim
  | _ => cases hw

end Replies

/-- At the end of every transaction the terminal flag is set exactly in the sink
states and after a rollover, and from then on no call changes the workflow: a
call on it raises or returns what is stored. -/
theorem terminal_frozen (hL : Reachable world L) {w : String} {row : InstanceRow}
    (hrow : L.row? w = some row) :
    (row.terminal = true ↔ IsSink row.workflowKind row.currentState ∨
      ∃ e, (L.eventsOf w).getLast? = some e ∧ e.eventType = .segmentRollover) ∧
    (row.terminal = true → ∀ ctx call,
      (step world ctx call L).view w = L.view w ∧
      (call.workflow? = some w →
        (∃ failure, exec world ctx call L = .error failure) ∨
        ∃ reply, exec world ctx call L = .ok (reply, L) ∧ RepliesStored L w reply)) := by
  refine ⟨(settled_of_reachable hL hrow).flag, fun hterminal ctx call => ⟨?_, fun hw => ?_⟩⟩
  · refine step_cases (P := fun M => M.view w = L.view w) rfl fun reply M hexec => ?_
    exact frozen_of_writes hrow hterminal (writes_of_effect (exec_effect hexec))
  · cases hexec : exec world ctx call L with
    | error failure => exact .inl ⟨failure, rfl⟩
    | ok result =>
        obtain ⟨reply, M⟩ := result
        obtain ⟨rfl, hreply⟩ := stored_of_exec hw hrow hterminal hexec
        exact .inr ⟨reply, rfl, hreply⟩

theorem terminal_frozen_rolledOver : ∃ L row, Reachable testWorld L ∧
    L.row? "workflow:test" = some row ∧ row.terminal = true ∧
    ∀ ctx call, (step testWorld ctx call L).view "workflow:test" =
      L.view "workflow:test" := by
  obtain ⟨used, row, state, L, hstage, -, -, hused⟩ := message_stage (Nat.le_refl 9999)
  obtain ⟨event, identityHash, L', hrolled⟩ := rollover_step hstage fun e he => by
    obtain ⟨⟨i, hkey⟩, -⟩ := hused e he
    rw [hkey]
    exact messageName_ne (by decide) i
  have hreach := run_of_exec hstage.reachable hrolled.executed
  have hrow : L'.row? "workflow:test" =
      some (appendedRow row (rolloverAppend "workflow:next") event none) := by
    have hid := workflowId_of_stage hstage
    simp [row?, hrolled.instances, lookup, appendedRow, advancedRow, hid]
  exact ⟨L', _, hreach, hrow, rfl,
    fun ctx call => ((terminal_frozen hreach hrow).2 rfl ctx call).1⟩

end MindscapeLocalCore.DurableState.Terminal
