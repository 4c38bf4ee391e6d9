import MindscapeLocalCore.DurableState.IterationRuns
import MindscapeLocalCore.DurableState.Projections
import MindscapeLocalCore.Library.Trace

/-!
How a workflow's state changes: along the edges of the transition table, from the
state that the event names, as long as every admission finds its iteration in `draft`.
-/

namespace MindscapeLocalCore.DurableState.StateChanges

open Library.Guarded Library.Json Library.Trace AppendEffects CallEffects Calls CanonicalJson Chain
open Errors ExecutionRuns Facade FacadeAppend IterationDocuments IterationRuns
open ProductIterationContract ProductIterations Projections Records Records.Ledger Reducers
open Repository Samples SingleWorkflow Terminal Transitions

/-- An event that changes the state follows an edge of the table, and names the state
that it leaves. -/
def FollowsEdge (kind : WorkflowKind) (current : Json) (event : EventRow) : Prop :=
  nextState current event ≠ current → ∃ source target : State,
    current = .str source.name ∧ nextState current event = .str target.name ∧
      target ∈ successors kind source ∧
      event.payload.get? "from_state" = some (.str source.name)

/-- An admission that passes all other checks finds its iteration in `draft`. -/
def AdmitsFromDraft (world : World) (L : Ledger) (_ : Context) (call : Call) : Prop :=
  ∀ input definition locked state,
    call = .append input (.admitProductIteration definition) →
    L.row? input.workflowId = some locked →
    (locked.currentSequence : Int) = input.expectedSequence →
    findIdempotentEvent L input.workflowId input.idempotencyKey = none →
    requireDefinition world definition "admitted" = .ok () →
    projectionState L locked = .ok state → requireAdmissible state definition = .ok () →
    locked.currentState = .draft

variable {world : World} {L L' : Ledger} {w : String} {s : State}

def AppendsEdge (locked : InstanceRow) (append : Append) : Prop :=
  append.currentState.getD locked.currentState ≠ locked.currentState →
    append.currentState.getD locked.currentState ∈
        successors locked.workflowKind locked.currentState ∧
      append.payload.get? "from_state" = some (.str locked.currentState.name)

section Appends

variable {key : String} {actor : Dict} {locked : InstanceRow} {append : Append}
  {event : EventRow} {V V' : View}

theorem appendsEdge_of_planned {source : Option Operation}
    (h : Planned source locked append)
    (hdraft : ∀ definition, source = some (.admitProductIteration definition) →
      append = admission definition → locked.currentState = .draft) :
    AppendsEdge locked append := by
  intro hne
  cases h with
  | moved target payload _ htarget hfrom _ _ => exact ⟨htarget, hfrom⟩
  | admitted definition hkind hsource =>
      have hstate := hdraft definition hsource rfl
      have hedge : State.admitted ∈ successors .productIteration .draft := by decide
      rw [hkind, hstate]
      exact ⟨hedge, get?_transitionPayload_from _ _ _⟩
  | reEvaluated evaluation _ hstate => exact absurd hstate.symm hne
  | receipt typed _ => exact absurd rfl hne
  | recorded append _ _ _ hstate _ _ _ => exact absurd (by simp [hstate]) hne
  | cancelled reason => exact absurd rfl hne

theorem appendsEdge_of_planned_none (h : Planned none locked append) :
    AppendsEdge locked append :=
  appendsEdge_of_planned h fun _ hsource => by cases hsource

/-- The state of a row, followed through the events from the opening state. -/
structure Lawful (s : State) (V : View) : Prop where
  row : ∃ row, V.row = some row ∧
    stateAfter nextState (.str s.name) V.events = .str row.currentState.name ∧
    Along nextState (FollowsEdge row.workflowKind) (.str s.name) V.events

theorem lawful_of_freshRow {row : InstanceRow} (h : FreshRow row s) :
    Lawful s ⟨some row, [], none⟩ :=
  ⟨row, rfl, by simp [h.currentState], trivial⟩

theorem lawful_of_appendedTo (hV : Lawful s V) (hagrees : Agrees locked append)
    (hedge : AppendsEdge locked append)
    (h : AppendedTo world key actor locked append event V V') : Lawful s V' := by
  obtain ⟨row, hrow, hstate, halong⟩ := hV.row
  cases h.row.symm.trans hrow
  obtain ⟨deadline, -, hadvanced⟩ := h.advanced
  have hnext : nextState (.str locked.currentState.name) event =
      .str (append.currentState.getD locked.currentState).name := by
    rw [nextState, h.eventType, h.payload]
    exact hagrees.state
  refine ⟨_, hadvanced, ?_, ?_⟩
  · rw [h.events, stateAfter_append_singleton, hstate, hnext]
    rfl
  · rw [h.events]
    refine (along_append_singleton nextState).mpr ⟨halong, ?_⟩
    rw [hstate]
    intro hchanged
    rw [hnext] at hchanged
    obtain ⟨hmem, hfrom⟩ := hedge fun heq => hchanged (by rw [heq])
    exact ⟨_, _, rfl, hnext, hmem, h.payload ▸ hfrom⟩

end Appends

/-! ## Runs -/

theorem lawful_of_founded {V : View} (h : Founded world s V) : Lawful s V := by
  cases h with
  | opened row hfresh hview =>
      rw [hview]
      exact lawful_of_freshRow hfresh
  | founded row append event key actor hfresh hplanned _ happended =>
      exact lawful_of_appendedTo (lawful_of_freshRow hfresh) (agrees_of_planned hplanned)
        (appendsEdge_of_planned_none hplanned) happended

theorem lawful_of_appended {key : String} {actor : Dict} {locked : InstanceRow}
    {append : Append} {event : EventRow} (hL : Lawful s (L.view w))
    (hagrees : Agrees locked append) (hedge : AppendsEdge locked append)
    (h : Appended world key actor locked append event L L') :
    Lawful s (L'.view w) := by
  by_cases hw : w = locked.workflowId
  · subst hw
    exact lawful_of_appendedTo hL hagrees hedge h.own
  · rw [h.frame w hw]
    exact hL

theorem lawful_of_opened {row : InstanceRow} {state : State} (hL : Lawful s (L.view w))
    (h : Opened row state L L') : Lawful s (L'.view w) := by
  obtain ⟨own, hown, -⟩ := hL.row
  rw [h.frame w fun heq => by
    have habsent := h.absent
    rw [← heq] at habsent
    exact absurd (habsent.symm.trans hown) (by simp)]
  exact hL

theorem lawful_of_seamEffect {source : Option Operation} {seam : Seam}
    (hplanned : ∀ locked append, seam.kindCheck locked = .ok () →
      seam.plan L locked = .ok append → Planned source locked append)
    (hedge : ∀ locked append event M, L.row? seam.workflowId = some locked →
      (locked.currentSequence : Int) = seam.expectedSequence →
      seam.precheck L = .ok () → seam.plan L locked = .ok append →
      Appended world seam.idempotencyKey seam.actor locked append event L M →
      Planned source locked append → AppendsEdge locked append)
    (h : SeamEffect world seam L L') (hL : Lawful s (L.view w)) :
    Lawful s (L'.view w) := by
  refine keeps_of_seamEffect (P := fun M => Lawful s (M.view w))
    (fun _ _ hsame hM => hsame w ▸ hM) (fun locked append event M hrow hseq hprecheck
      hkind hplan happended => ?_) h hL
  have hplan' := hplanned locked append hkind hplan
  exact lawful_of_appended hL (agrees_of_planned hplan')
    (hedge locked append event M hrow hseq hprecheck hplan happended hplan') happended

theorem appendsEdge_of_operation {ctx : Context} {input : AppendInput}
    {operation : Operation} (hp : AdmitsFromDraft world L ctx (.append input operation))
    {locked : InstanceRow} {append : Append} {event : EventRow}
    (hrow : L.row? (operation.seam world ctx.facade input).workflowId = some locked)
    (hseq : (locked.currentSequence : Int) =
      (operation.seam world ctx.facade input).expectedSequence)
    (hprecheck : (operation.seam world ctx.facade input).precheck L = .ok ())
    (hplan : (operation.seam world ctx.facade input).plan L locked = .ok append)
    (happended : Appended world (operation.seam world ctx.facade input).idempotencyKey
      (operation.seam world ctx.facade input).actor locked append event L L')
    (hplanned : Planned (some operation) locked append) : AppendsEdge locked append := by
  refine appendsEdge_of_planned hplanned fun definition hsource _ => ?_
  cases hsource
  simp only [Operation.seam, admitProductIteration, iterationSeam, bind_eq_ok,
    exists_unit, check_eq_ok] at hrow hseq hprecheck hplan happended
  obtain ⟨state, hstate, hadmissible, -⟩ := hplan
  have hfresh := happended.own.fresh
  rw [workflowId_of_row? hrow] at hfresh
  exact hp input definition locked state rfl hrow hseq hfresh hprecheck hstate hadmissible

theorem lawful_of_effect (hreach : Reachable world L)
    (hdigests : TransitionDigests world L) {ctx : Context} {call : Call}
    (hp : AdmitsFromDraft world L ctx call) (hL : Lawful s (L.view w))
    (h : Effect world ctx call L L') : Lawful s (L'.view w) := by
  cases h with
  | kept h => exact h w ▸ hL
  | opened row hopened _ => exact lawful_of_opened hL hopened
  | founded row append event key actor L₁ hopened hplanned _ happended _ =>
      exact lawful_of_appended (lawful_of_opened hL hopened) (agrees_of_planned hplanned)
        (appendsEdge_of_planned_none hplanned) happended
  | operated h =>
      exact lawful_of_seamEffect (fun _ _ => planned_of_plan _)
        (fun _ _ _ _ => appendsEdge_of_operation hp) h hL
  | cancelled L₁ hrequest htransition =>
      refine lawful_of_seamEffect
        (fun _ _ => planned_of_iteration_transition none _ _ _ _)
        (fun _ _ _ _ _ _ _ _ _ => appendsEdge_of_planned_none) htransition ?_
      exact lawful_of_seamEffect
        (fun _ _ _ hplan => planned_of_cancellationRequest hplan)
        (fun _ _ _ _ _ _ _ _ _ => appendsEdge_of_planned_none) hrequest hL
  | superseded locked event _ _ hplanned happended =>
      exact lawful_of_appended hL (agrees_of_planned hplanned)
        (appendsEdge_of_planned_none hplanned) happended
  | intended locked payload event key actor _ _ happended =>
      have hplanned := planned_of_intent locked payload
      exact lawful_of_appended hL (agrees_of_planned hplanned)
        (appendsEdge_of_planned_none hplanned) happended
  | terminated locked after target signed first second L₁ hrow _ hkind hopen _ htarget
      hsink _ hfirst _ hafter hsecond =>
      have hnew := appended_of_terminalTransition hreach hdigests hrow hopen hkind hsink
        hfirst
      have hstate : after.currentState = target := by
        obtain ⟨deadline, -, hadvanced⟩ := hnew.own.advanced
        rw [workflowId_of_row? hrow] at hadvanced
        cases hadvanced.symm.trans hafter
        rfl
      refine lawful_of_appended ?_ (agrees_of_terminalReceipt signed hstate)
        (fun hne => absurd hstate.symm hne) hsecond
      refine lawful_of_appended hL (agrees_of_terminalTransition _ _) (fun _ => ?_) hnew
      exact ⟨hkind ▸ htarget, get?_transitionPayload_from _ _ []⟩
  | rolledOver locked row event L₁ _ _ _ happended hopened _ _ =>
      refine lawful_of_opened ?_ hopened
      cases happended with
      | repeated hrepeated =>
          rw [hrepeated.same]
          exact hL
      | appended happended =>
          exact lawful_of_appended hL (agrees_of_rollover _ _)
            (fun hne => absurd rfl hne) happended

theorem lawful_of_openedWith (h : OpenedWith world (AdmitsFromDraft world) w s L)
    (hdigests : TransitionDigests world L) : Lawful s (L.view w) := by
  induction h with
  | opening h ctx call _ habsent hrow hstate =>
      exact lawful_of_founded (founded_of_opening h habsent hrow hstate)
  | @later M h ctx call hp ih =>
      have hreach := run_of_runWhere (runWhere_of_openedWith h)
      revert hdigests
      refine step_cases
        (P := fun M' => TransitionDigests world M' → Lawful s (M'.view w)) ih ?_
      intro reply M' hexec hdigests'
      have heffect := exec_effect hexec
      have hdigests := transitionDigests_of_prefix
        (eventsOf_prefix_of_writes (writes_of_effect heffect)) hdigests'
      exact lawful_of_effect hreach hdigests hp (ih hdigests) heffect

theorem admission_refused {ctx : Context} {input : AppendInput} {definition : Dict}
    (hp : AdmitsFromDraft world L ctx (.append input (.admitProductIteration definition)))
    {row : InstanceRow} (hrow : L.row? input.workflowId = some row)
    (hstate : row.currentState ≠ .draft)
    (hfresh : findIdempotentEvent L input.workflowId input.idempotencyKey = none) :
    ∃ failure, exec world ctx (.append input (.admitProductIteration definition)) L =
      .error failure := by
  cases hexec : exec world ctx (.append input (.admitProductIteration definition)) L with
  | error failure => exact ⟨failure, rfl⟩
  | ok result =>
      obtain ⟨event, hcall, -⟩ := replying_eq_ok.mp hexec
      obtain ⟨hprecheck, houtcome⟩ := AppendEffects.Seam.run_eq_ok.mp hcall
      cases houtcome with
      | retried locked _ _ _ hprior _ _ => exact absurd (hfresh.symm.trans hprior) (by simp)
      | planned locked append L₁ hlocked hseq _ hplan _ _ =>
          cases hrow.symm.trans hlocked
          simp only [Operation.seam, admitProductIteration, iterationSeam, bind_eq_ok,
            exists_unit, check_eq_ok] at hseq hprecheck hplan
          obtain ⟨state, hprojection, hadmissible, -⟩ := hplan
          exact absurd (hp input definition row state rfl hrow hseq hfresh hprecheck
            hprojection hadmissible) hstate

end MindscapeLocalCore.DurableState.StateChanges
