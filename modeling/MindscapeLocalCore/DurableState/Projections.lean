import MindscapeLocalCore.DurableState.Terminal

/-!
The projection of a workflow refines its events: it is the fold of the reducer
over them, and its first fields mirror the instance row.
-/

namespace MindscapeLocalCore.DurableState.Projections

open Library.Guarded Library.Json AppendEffects CallEffects Calls CanonicalJson Chain ExecutionRuns
open Facade FacadeAppend ProductIterations Records Records.Ledger Reducers Repository Samples
open SingleWorkflow Terminal TerminalReceipts Transitions

/-! ## How a workflow was opened -/

/-- A run from the empty ledger in which the transaction that opened `w` left it in
the state `s`. -/
inductive OpenedWith (world : World) (p : Ledger → Context → Call → Prop) (w : String)
    (s : State) : Ledger → Prop where
  | opening {L : Ledger} {row : InstanceRow} (h : RunWhere world p Ledger.empty L)
      (ctx : Context) (call : Call) (hp : p L ctx call) (habsent : L.row? w = none)
      (hrow : (step world ctx call L).row? w = some row)
      (hstate : row.currentState = s) : OpenedWith world p w s (step world ctx call L)
  | later {L : Ledger} (h : OpenedWith world p w s L) (ctx : Context) (call : Call)
      (hp : p L ctx call) : OpenedWith world p w s (step world ctx call L)

variable {world : World} {p : Ledger → Context → Call → Prop} {L L' : Ledger}
  {w : String} {s : State}

theorem runWhere_of_openedWith (h : OpenedWith world p w s L) :
    RunWhere world p Ledger.empty L := by
  induction h with
  | opening h ctx call hp _ _ _ => exact .step h ctx call hp
  | later _ ctx call hp ih => exact .step ih ctx call hp

theorem exists_openedWith (h : RunWhere world p Ledger.empty L) {row : InstanceRow}
    (hrow : L.row? w = some row) : ∃ s, OpenedWith world p w s L := by
  induction h generalizing row with
  | refl => cases hrow
  | @step M h ctx call hp ih =>
      cases hbefore : M.row? w with
      | none => exact ⟨_, .opening h ctx call hp hbefore hrow rfl⟩
      | some before =>
          obtain ⟨s, hs⟩ := ih hbefore
          exact ⟨s, .later hs ctx call hp⟩

/-- The view that an opening transaction leaves: a fresh row, with or without a first
event that says nothing about the state. -/
inductive Founded (world : World) (s : State) (V : View) : Prop where
  | opened (row : InstanceRow) (hfresh : FreshRow row s)
      (hview : V = ⟨some row, [], none⟩)
  | founded (row : InstanceRow) (append : Append) (event : EventRow) (key : String)
      (actor : Dict) (hfresh : FreshRow row s) (hplanned : Planned none row append)
      (htype : append.eventType ≠ .transition)
      (happended : AppendedTo world key actor row append event ⟨some row, [], none⟩ V)

theorem view_of_appended_absent {key : String} {actor : Dict} {locked : InstanceRow}
    {append : Append} {event : EventRow}
    (h : Appended world key actor locked append event L L')
    (habsent : L.row? w = none) : L'.view w = L.view w := by
  refine h.frame w fun heq => ?_
  have hrow := h.own.row
  rw [heq] at habsent
  exact absurd (habsent.symm.trans hrow) (by simp)

theorem view_of_appendEffect_absent {key : String} {actor : Dict}
    {locked : InstanceRow} {append : Append} {event : EventRow}
    (h : AppendEffect world key actor locked append event L L')
    (habsent : L.row? w = none) : L'.view w = L.view w := by
  cases h with
  | repeated hrepeated => rw [hrepeated.same]
  | appended happended => exact view_of_appended_absent happended habsent

theorem view_of_seamEffect_absent {seam : Seam} (h : SeamEffect world seam L L')
    (habsent : L.row? w = none) : L'.view w = L.view w := by
  cases h with
  | kept h => exact h w
  | appended locked append event L₁ _ _ _ _ _ happended hafter =>
      exact (hafter w).trans (view_of_appended_absent happended habsent)

theorem founded_of_effect (hL : Reachable world L) {ctx : Context} {call : Call}
    (h : Effect world ctx call L L') (habsent : L.row? w = none) {row : InstanceRow}
    (hrow : L'.row? w = some row) : ∃ s, Founded world s (L'.view w) := by
  have hempty := view_of_absent hL habsent
  have hnot : L'.view w ≠ L.view w := fun heq => by
    have hsame := congrArg View.row heq
    change L'.row? w = L.row? w at hsame
    simp [hrow, habsent] at hsame
  cases h with
  | kept h => exact absurd (h w) hnot
  | opened fresh hopened _ =>
      by_cases hw : w = fresh.workflowId
      · subst hw
        refine ⟨_, .opened fresh hopened.fresh ?_⟩
        rw [hopened.own]
        exact congr (congrArg _ (congrArg View.events hempty))
          (congrArg View.projection hempty)
      · exact absurd (hopened.frame w hw) hnot
  | founded fresh append event key actor L₁ hopened hplanned htype happended _ =>
      by_cases hw : w = fresh.workflowId
      · subst hw
        have hown := hopened.own
        have hview : L₁.view fresh.workflowId = ⟨some fresh, [], none⟩ := by
          rw [hown]
          exact congr (congrArg _ (congrArg View.events hempty))
            (congrArg View.projection hempty)
        refine ⟨_, .founded fresh append event key actor hopened.fresh hplanned ?_ ?_⟩
        · rcases htype with htype | htype <;> simp [htype]
        · rw [← hview]
          exact happended.own
      · exact absurd ((happended.frame w hw).trans (hopened.frame w hw)) hnot
  | operated h => exact absurd (view_of_seamEffect_absent h habsent) hnot
  | cancelled L₁ hrequest htransition =>
      have hfirst := view_of_seamEffect_absent hrequest habsent
      have hsecond := view_of_seamEffect_absent htransition
        ((congrArg View.row hfirst).trans habsent)
      exact absurd (hsecond.trans hfirst) hnot
  | superseded locked event _ _ _ happended =>
      exact absurd (view_of_appended_absent happended habsent) hnot
  | intended locked payload event key actor _ _ happended =>
      exact absurd (view_of_appended_absent happended habsent) hnot
  | terminated locked after target signed first second L₁ _ _ _ _ _ _ _ _ hfirst _ _
      hsecond =>
      have hone := view_of_appendEffect_absent hfirst habsent
      have htwo := view_of_appended_absent hsecond
        ((congrArg View.row hone).trans habsent)
      exact absurd (htwo.trans hone) hnot
  | rolledOver locked fresh event L₁ _ _ _ happended hopened _ _ =>
      have hone := view_of_appendEffect_absent happended habsent
      by_cases hw : w = fresh.workflowId
      · subst hw
        have hview := hone.trans hempty
        refine ⟨_, .opened fresh hopened.fresh ?_⟩
        rw [hopened.own]
        exact congr (congrArg _ (congrArg View.events hview))
          (congrArg View.projection hview)
      · exact absurd ((hopened.frame w hw).trans hone) hnot

/-! ## The fold -/

/-- The projection before the first event of a workflow opened in `s`. -/
def openingProjection (s : State) : Dict :=
  initialProjection (.str s.name) .null (Json.nat 0) .null

structure Folded (world : World) (s : State) (V : View) : Prop where
  fold : ∃ row prior, V.row = some row ∧ priorState V.projection row = .ok prior ∧
    reduceAll world (openingProjection s) V.events = .ok prior
  stored : V.events ≠ [] → V.projection ≠ none

theorem folded_of_freshRow {row : InstanceRow} (h : FreshRow row s) :
    Folded world s ⟨some row, [], none⟩ where
  fold := by
    refine ⟨row, openingProjection s, rfl, ?_, rfl⟩
    simp [priorState, h.currentSequence, h.currentState, h.cancellationState,
      h.currentEventHash, openingProjection, bind_eq_ok]
  stored := by simp

theorem priorState_some {stored : ProjectionRow} {row : InstanceRow} {prior : Dict} :
    priorState (some stored) row = .ok prior ↔
      stored.lastSequence = row.currentSequence ∧ stored.state = prior := by
  simp [priorState, bind_eq_ok]

section Appends

variable {key : String} {actor : Dict} {locked : InstanceRow} {append : Append}
  {event : EventRow} {V V' : View}

theorem priorState_of_appendedTo
    (h : AppendedTo world key actor locked append event V V') :
    ∃ deadline prior state, V'.row = some (appendedRow locked append event deadline) ∧
      priorState V.projection locked = .ok prior ∧
      reduceV1 world prior event = .ok state ∧ V'.projection ≠ none ∧
      priorState V'.projection (appendedRow locked append event deadline) =
        .ok state := by
  obtain ⟨deadline, -, hrow⟩ := h.advanced
  obtain ⟨prior, state, stateHash, hprior, hreduce, -, hprojection⟩ := h.projected
  refine ⟨deadline, prior, state, hrow, hprior, hreduce, by simp [hprojection], ?_⟩
  rw [hprojection, priorState_some]
  exact ⟨h.isSealed.sequence, rfl⟩

theorem folded_of_appendedTo (hV : Folded world s V)
    (h : AppendedTo world key actor locked append event V V') : Folded world s V' := by
  obtain ⟨row, prior, hrow, hprior, hfold⟩ := hV.fold
  cases h.row.symm.trans hrow
  obtain ⟨deadline, prior', state, hrow', hprior', hreduce, hstored, hstate⟩ :=
    priorState_of_appendedTo h
  cases hprior.symm.trans hprior'
  refine ⟨⟨_, state, hrow', hstate, ?_⟩, fun _ => hstored⟩
  rw [h.events, reduceAll_append_singleton, hfold]
  exact hreduce

end Appends

theorem folded_of_founded {V : View} (h : Founded world s V) : Folded world s V := by
  cases h with
  | opened row hfresh hview =>
      rw [hview]
      exact folded_of_freshRow hfresh
  | founded row append event key actor hfresh _ _ happended =>
      exact folded_of_appendedTo (folded_of_freshRow hfresh) happended

theorem folded_of_writes (h : Writes world L L') (hL : Folded world s (L.view w)) :
    Folded world s (L'.view w) := by
  induction h with
  | refl => exact hL
  | @tail M M' _ hlast ih =>
      obtain ⟨row, prior, hrow, -⟩ := ih.fold
      cases hlast with
      | kept h =>
          rw [h w]
          exact ih
      | opened fresh state h =>
          rw [h.frame w fun heq => by
            have habsent := h.absent
            rw [← heq] at habsent
            exact absurd (habsent.symm.trans hrow) (by simp)]
          exact ih
      | appended key actor locked append event _ h =>
          by_cases hw : w = locked.workflowId
          · subst hw
            exact folded_of_appendedTo ih h.own
          · rw [h.frame w hw]
            exact ih

theorem folded_of_run (h : Run world L L') (hL : Folded world s (L.view w)) :
    Folded world s (L'.view w) := by
  induction h with
  | refl => exact hL
  | step _ ctx call _ ih =>
      exact step_cases (P := fun M => Folded world s (M.view w)) ih fun _ _ hexec =>
        folded_of_writes (writes_of_effect (exec_effect hexec)) ih

theorem currentState_of_founded {V : View} (h : Founded world s V) {row : InstanceRow}
    (hrow : V.row = some row) : row.currentState = s := by
  cases h with
  | opened fresh hfresh hview =>
      rw [hview] at hrow
      cases hrow
      exact hfresh.currentState
  | founded fresh append event key actor hfresh hplanned htype happended =>
      obtain ⟨deadline, -, hadvanced⟩ := happended.advanced
      cases hadvanced.symm.trans hrow
      have hstate : append.currentState = none := by
        cases hplanned <;> first | assumption | rfl | exact absurd rfl htype
      simp [appendedRow, advancedRow, hstate, hfresh.currentState]

theorem founded_of_opening (h : RunWhere world p Ledger.empty L) {ctx : Context}
    {call : Call} (habsent : L.row? w = none) {row : InstanceRow}
    (hrow : (step world ctx call L).row? w = some row)
    (hstate : row.currentState = s) :
    Founded world s ((step world ctx call L).view w) := by
  revert hrow
  refine step_cases (P := fun M => M.row? w = some row → Founded world s (M.view w))
    (fun hrow => ?_) fun reply M hexec hrow => ?_
  · exact absurd (habsent.symm.trans hrow) (by simp)
  · obtain ⟨s', hfounded⟩ :=
      founded_of_effect (run_of_runWhere h) (exec_effect hexec) habsent hrow
    have hs : s' = s := (currentState_of_founded hfounded hrow).symm.trans hstate
    exact hs ▸ hfounded

theorem folded_of_openedWith (h : OpenedWith world p w s L) :
    Folded world s (L.view w) := by
  induction h with
  | opening h ctx call _ habsent hrow hstate =>
      exact folded_of_founded (founded_of_opening h habsent hrow hstate)
  | later _ ctx call _ ih => exact folded_of_run (.step (.refl _) ctx call trivial) ih

/-! ## The mirrored fields -/

structure Mirrored (V : View) : Prop where
  absent : V.row = none → V.projection = none
  mirrors : ∀ row, V.row = some row → ∃ prior,
    priorState V.projection row = .ok prior ∧
      Mirrors prior (.str row.currentState.name) (Json.ofOption row.cancellationState)
        (Json.nat row.currentSequence) (Json.ofOption row.currentEventHash)

/-- What the row is told is what the reducer reads from the event. -/
structure Agrees (locked : InstanceRow) (append : Append) : Prop where
  state : (if append.eventType = .transition then
      (append.payload.get? "to_state").getD (.str locked.currentState.name)
    else .str locked.currentState.name) =
      .str (append.currentState.getD locked.currentState).name
  cancellation : (if append.eventType = .cancellationRequested then .str "requested"
    else Json.ofOption locked.cancellationState) =
      Json.ofOption (append.cancellationState.or locked.cancellationState)

section Agreement

variable {key : String} {actor : Dict} {locked : InstanceRow} {append : Append}
  {event : EventRow} {V V' : View}

theorem agrees_of_planned {source : Option Operation}
    (h : Planned source locked append) : Agrees locked append := by
  cases h with
  | moved target payload _ _ _ hto _ => exact ⟨by simp [hto], by simp⟩
  | admitted definition _ _ =>
      refine ⟨?_, by simp [admission]⟩
      simp [admission, get?_transitionPayload_to]
  | reEvaluated evaluation _ _ =>
      refine ⟨?_, by simp [reEvaluation]⟩
      simp [reEvaluation, get?_transitionPayload_to]
  | receipt typed _ => exact ⟨by simp [get?_receiptMember_to], by simp⟩
  | recorded append htransition hcancellation _ hstate _ hcancel _ =>
      exact ⟨by simp [htransition, hstate], by simp [hcancellation, hcancel]⟩
  | cancelled reason => exact ⟨by simp, by simp⟩

theorem agrees_of_terminalTransition (locked : InstanceRow) (target : State) :
    Agrees locked (terminalTransition locked target) := by
  refine ⟨?_, by simp [terminalTransition]⟩
  have hto := get?_transitionPayload_to locked.currentState.name target.name []
  rw [List.append_nil] at hto
  simp [terminalTransition, hto]

theorem agrees_of_terminalReceipt {target : State} (signed : Dict)
    (h : locked.currentState = target) :
    Agrees locked (terminalReceipt target signed) :=
  ⟨by simp [terminalReceipt, get?_receiptMember_to, h], by simp [terminalReceipt]⟩

theorem agrees_of_rollover (locked : InstanceRow) (successor : String) :
    Agrees locked (rolloverAppend successor) :=
  ⟨by simp [rolloverAppend], by simp [rolloverAppend]⟩

theorem mirrored_of_appendedTo (hV : Mirrored V) (hagrees : Agrees locked append)
    (h : AppendedTo world key actor locked append event V V') : Mirrored V' := by
  obtain ⟨deadline, prior, state, hrow, hprior, hreduce, -, hstate⟩ :=
    priorState_of_appendedTo h
  refine ⟨fun hnone => by simp [hrow] at hnone, fun row hrow' => ?_⟩
  cases hrow.symm.trans hrow'
  obtain ⟨prior', hprior', hmirrors⟩ := hV.mirrors locked h.row
  cases hprior.symm.trans hprior'
  refine ⟨state, hstate, ?_⟩
  have hmoved := mirrors_of_reduceV1 hmirrors hreduce
  simp only [nextState, h.eventType, h.payload, hagrees.state, hagrees.cancellation,
    h.isSealed.sequence] at hmoved
  exact hmoved

end Agreement

theorem mirrored_of_appended {key : String} {actor : Dict} {locked : InstanceRow}
    {append : Append} {event : EventRow}
    (h : Appended world key actor locked append event L L')
    (hagrees : Agrees locked append) (hL : ∀ w, Mirrored (L.view w)) :
    ∀ w, Mirrored (L'.view w) :=
  forall_of_appended (P := fun _ => Mirrored) h hL
    (mirrored_of_appendedTo (hL _) hagrees h.own)

theorem mirrored_of_opened {row : InstanceRow} {state : State}
    (h : Opened row state L L') (hL : ∀ w, Mirrored (L.view w)) :
    ∀ w, Mirrored (L'.view w) := by
  refine forall_of_opened (P := fun _ => Mirrored) h hL ?_
  have hprojection : L.projection? row.workflowId = none := (hL _).absent h.absent
  rw [h.own, hprojection]
  refine ⟨fun hnone => (by cases hnone), ?_⟩
  rintro _ ⟨⟩
  refine ⟨_, by
    simp only [priorState, bind_eq_ok, exists_unit, require_eq_ok]
    exact ⟨h.fresh.currentSequence, rfl⟩, mirrors_initialProjection _ _ _ _⟩

theorem mirrored_of_sameViews (h : SameViews L L') (hL : ∀ w, Mirrored (L.view w))
    (w : String) : Mirrored (L'.view w) := by
  rw [h w]
  exact hL w

theorem mirrored_of_seamEffect {source : Option Operation} {seam : Seam}
    (hplanned : ∀ locked append, seam.kindCheck locked = .ok () →
      seam.plan L locked = .ok append → Planned source locked append)
    (h : SeamEffect world seam L L') (hL : ∀ w, Mirrored (L.view w)) :
    ∀ w, Mirrored (L'.view w) :=
  keeps_of_seamEffect (P := fun M => ∀ w, Mirrored (M.view w))
    (fun _ _ => mirrored_of_sameViews)
    (fun locked append _ _ _ _ _ hkind hplan happended =>
      mirrored_of_appended happended
        (agrees_of_planned (hplanned locked append hkind hplan)) hL) h hL

theorem mirrored_of_effect (hreach : Reachable world L)
    (hdigests : TransitionDigests world L) {ctx : Context} {call : Call}
    (hL : ∀ w, Mirrored (L.view w)) (h : Effect world ctx call L L') :
    ∀ w, Mirrored (L'.view w) := by
  cases h with
  | kept h => exact mirrored_of_sameViews h hL
  | opened row hopened _ => exact mirrored_of_opened hopened hL
  | founded row append event key actor L₁ hopened hplanned _ happended _ =>
      exact mirrored_of_appended happended (agrees_of_planned hplanned)
        (mirrored_of_opened hopened hL)
  | operated h => exact mirrored_of_seamEffect (fun _ _ => planned_of_plan _) h hL
  | cancelled L₁ hrequest htransition =>
      exact mirrored_of_seamEffect
        (fun _ _ => planned_of_iteration_transition none _ _ _ _) htransition
        (mirrored_of_seamEffect
          (fun _ _ _ hplan => planned_of_cancellationRequest hplan) hrequest hL)
  | superseded locked event _ _ hplanned happended =>
      exact mirrored_of_appended happended (agrees_of_planned hplanned) hL
  | intended locked payload event key actor _ _ happended =>
      exact mirrored_of_appended happended
        (agrees_of_planned (planned_of_intent locked payload)) hL
  | terminated locked after target signed first second L₁ hrow _ hkind hopen _ _ hsink _
      hfirst _ hafter hsecond =>
      have hnew := appended_of_terminalTransition hreach hdigests hrow hopen hkind hsink
        hfirst
      have hstate : after.currentState = target := by
        obtain ⟨deadline, -, hadvanced⟩ := hnew.own.advanced
        rw [workflowId_of_row? hrow] at hadvanced
        cases hadvanced.symm.trans hafter
        rfl
      exact mirrored_of_appended hsecond (agrees_of_terminalReceipt signed hstate)
        (mirrored_of_appended hnew (agrees_of_terminalTransition _ _) hL)
  | rolledOver locked row event L₁ _ _ _ happended hopened _ _ =>
      refine mirrored_of_opened hopened ?_
      cases happended with
      | repeated hrepeated =>
          rw [hrepeated.same]
          exact hL
      | appended happended =>
          exact mirrored_of_appended happended (agrees_of_rollover _ _) hL

theorem mirrored_of_reachable (hL : Reachable world L)
    (hdigests : TransitionDigests world L) (w : String) : Mirrored (L.view w) := by
  refine invariant_of_reachable
    (P := fun M => TransitionDigests world M → ∀ w, Mirrored (M.view w))
    (fun M ctx call M' hreach hM _ heffect hdigests' => ?_) hL (fun _ w => ?_) hdigests w
  · have hdigests := transitionDigests_of_prefix
      (eventsOf_prefix_of_writes (writes_of_effect heffect)) hdigests'
    exact mirrored_of_effect hreach hdigests (hM hdigests) heffect
  · exact ⟨fun _ => rfl, fun _ h => by cases h⟩

/-- The current projection of every workflow with an event mirrors the instance row,
and its state is the left fold of the reducer over the stored events, from the state
that the workflow was opened with. -/
theorem projection_refines (hL : Reachable world L)
    (hdigests : TransitionDigests world L) {row : InstanceRow}
    (hrow : L.row? w = some row) (hevents : L.eventsOf w ≠ []) :
    (∃ s, OpenedWith world (fun _ _ _ => True) w s L) ∧
    ∃ projection, L.projection? w = some projection ∧
      projection.lastSequence = row.currentSequence ∧
      Mirrors projection.state (.str row.currentState.name)
        (Json.ofOption row.cancellationState) (Json.nat row.currentSequence)
        (Json.ofOption row.currentEventHash) ∧
      ∀ s, OpenedWith world (fun _ _ _ => True) w s L →
        reduceAll world
          (initialProjection (.str s.name) .null (Json.nat 0) .null)
          (L.eventsOf w) = .ok projection.state := by
  obtain ⟨s, hs⟩ := exists_openedWith hL hrow
  refine ⟨⟨s, hs⟩, ?_⟩
  have hstored := (folded_of_openedWith hs).stored hevents
  obtain ⟨projection, hprojection⟩ := Option.ne_none_iff_exists'.mp hstored
  obtain ⟨prior, hprior, hmirrors⟩ := (mirrored_of_reachable hL hdigests w).mirrors row hrow
  rw [hprojection] at hprior
  obtain ⟨hsequence, rfl⟩ := priorState_some.mp hprior
  refine ⟨projection, hprojection, hsequence, hmirrors, fun s hs => ?_⟩
  obtain ⟨row', prior', hrow', hprior', hfold⟩ := (folded_of_openedWith hs).fold
  rw [hprojection] at hprior'
  rw [(priorState_some.mp hprior').2]
  exact hfold

theorem projection_refines_message : ∃ L projection, Reachable testWorld L ∧
    L.projection? "workflow:test" = some projection ∧ projection.lastSequence = 1 ∧
    projection.state.get? "current_state" = some (.str "pending") ∧
    projection.state.get? "cancellation_state" = some .null := by
  obtain ⟨event, row, state, L, hstage, hevents, htype, hstate, hcancellation, -⟩ :=
    one_message
  have hid := workflowId_of_stage hstage
  have hrow := row?_of_solo hstage.solo
  have hown := eventsOf_of_solo hstage.solo
  rw [hid] at hrow hown
  obtain ⟨-, projection, hprojection, hsequence, hmirrors, -⟩ := projection_refines
    hstage.reachable (transitionDigests_of_none (by simp [hevents, htype])) hrow
    (by simp [hown, hevents])
  refine ⟨L, projection, hstage.reachable, hprojection, ?_, ?_, ?_⟩
  · rw [hsequence, hstage.solo.currentSequence]
  · rw [hmirrors.currentState, hstate]
    rfl
  · rw [hmirrors.cancellationState, hcancellation]
    rfl

end MindscapeLocalCore.DurableState.Projections
