import Mathlib.Data.List.Infix
import Mathlib.Logic.Relation
import MindscapeLocalCore.DurableState.CallEffects
import MindscapeLocalCore.Library.HashChain

/-!
The invariants that every single write keeps: the hash chain with its counters,
and the bounds of a segment.
-/

namespace MindscapeLocalCore.DurableState.Chain

open Library.Guarded Library.HashChain Library.Json Library.Table AppendEffects CallEffects Calls
open CanonicalJson Events Facade FacadeAppend ProductIterations Records Records.Ledger Repository
open Transitions

/-! ## Single writes -/

inductive Write (world : World) (L L' : Ledger) : Prop where
  | kept (h : SameViews L L')
  | opened (row : InstanceRow) (state : State) (h : Opened row state L L')
  | appended (key : String) (actor : Dict) (locked : InstanceRow) (append : Append)
      (event : EventRow) (hcatalogue : Catalogue locked append)
      (h : Appended world key actor locked append event L L')

abbrev Writes (world : World) : Ledger → Ledger → Prop :=
  Relation.ReflTransGen (Write world)

variable {world : World} {L L' : Ledger}

theorem writes_single (h : Write world L L') : Writes world L L' :=
  Relation.ReflTransGen.single h

theorem writes_pair {L₁ : Ledger} (h₁ : Write world L L₁) (h₂ : Write world L₁ L') :
    Writes world L L' := (writes_single h₁).tail h₂

theorem write_of_appendEffect {key : String} {actor : Dict} {locked : InstanceRow}
    {append : Append} {event : EventRow} (hcatalogue : Catalogue locked append)
    (h : AppendEffect world key actor locked append event L L') :
    Write world L L' := by
  cases h with
  | repeated hrepeated => exact .kept fun w => by rw [hrepeated.same]
  | appended happended =>
      exact .appended key actor locked append event hcatalogue happended

theorem writes_of_seamEffect {source : Option Operation} {seam : Seam}
    (hplanned : ∀ locked append, seam.kindCheck locked = .ok () →
      seam.plan L locked = .ok append → Planned source locked append)
    (h : SeamEffect world seam L L') : Writes world L L' := by
  cases h with
  | kept h => exact writes_single (.kept h)
  | appended locked append event L₁ hrow hseq hprecheck hkind hplan happended hafter =>
      exact writes_pair
        (.appended _ _ locked append event
          (.planned (hplanned locked append hkind hplan)) happended) (.kept hafter)

theorem planned_of_cancellationRequest {input : AppendInput} {reason : Dict}
    {locked : InstanceRow} {append : Append}
    (hplan : (cancellationRequest input reason).plan L locked = .ok append) :
    Planned none locked append := by
  simp only [cancellationRequest, requestCancellation, recordPayload, bind_eq_ok,
    exists_unit, pure_eq_ok, Except.ok.injEq] at hplan
  obtain ⟨-, rfl⟩ := hplan
  exact .cancelled reason

theorem identity_of_appendEffect {w key : String} {actor : Dict}
    {locked after : InstanceRow} {append : Append} {event : EventRow} {L₁ : Ledger}
    (hrow : L.row? w = some locked) (hafter : L₁.row? w = some after)
    (h : AppendEffect world key actor locked append event L L₁) :
    after.workflowKind = locked.workflowKind ∧
      after.semanticIdentity = locked.semanticIdentity := by
  have hlocked := workflowId_of_row? hrow
  cases h with
  | repeated hrepeated =>
      rw [hrepeated.same, hrow] at hafter
      cases hafter
      exact ⟨rfl, rfl⟩
  | appended happended =>
      obtain ⟨deadline, -, hadvanced⟩ := happended.own.advanced
      rw [hlocked] at hadvanced
      change L₁.row? w = _ at hadvanced
      rw [hafter] at hadvanced
      cases hadvanced
      exact ⟨rfl, rfl⟩

theorem frame_of_appendEffect {key : String} {actor : Dict} {locked : InstanceRow}
    {append : Append} {event : EventRow}
    (h : AppendEffect world key actor locked append event L L') {w : String}
    (hw : w ≠ locked.workflowId) : L'.view w = L.view w := by
  cases h with
  | repeated hrepeated => rw [hrepeated.same]
  | appended happended => exact happended.frame w hw

theorem writes_of_effect {ctx : Context} {call : Call}
    (h : Effect world ctx call L L') : Writes world L L' := by
  cases h with
  | kept h => exact writes_single (.kept h)
  | opened row hopened _ => exact writes_single (.opened row _ hopened)
  | founded row append event key actor L₁ hopened hplanned htype happended _ =>
      exact writes_pair (.opened row _ hopened)
        (.appended key actor row append event (.planned hplanned) happended)
  | @operated input operation _ _ h =>
      exact writes_of_seamEffect (fun _ _ => planned_of_plan operation) h
  | cancelled L₁ hrequest htransition =>
      exact (writes_of_seamEffect
        (fun _ _ _ hplan => planned_of_cancellationRequest hplan) hrequest).trans
        (writes_of_seamEffect
          (fun _ _ => planned_of_iteration_transition none _ _ _ _) htransition)
  | superseded locked event hrow hseq hplanned happended =>
      exact writes_single (.appended _ _ locked _ event (.planned hplanned) happended)
  | intended locked payload event key actor _ hkind happended =>
      exact writes_single (.appended key actor locked _ event
        (.planned (planned_of_intent locked payload)) happended)
  | terminated locked after target signed first second L₁ hrow hseq hkind hnonterminal
      hname htarget hsink hparity hfirst hsigned hafter hsecond =>
      have hkind' := (identity_of_appendEffect hrow hafter hfirst).1.trans hkind
      exact writes_pair (write_of_appendEffect (.terminated target hkind htarget hsink)
        hfirst) (.appended _ _ after _ second (.closed target signed hkind' hsink)
          hsecond)
  | @rolledOver input successor _ _ locked row event L₁ hrow hseq hnonterminal happended
      hopened hidentity hname =>
      exact writes_pair (write_of_appendEffect (.rolledOver successor) happended)
        (.opened row _ hopened)

theorem invariant_of_reachable {p : Ledger → Context → Call → Prop}
    {P : Ledger → Prop}
    (hstep : ∀ M ctx call M', Reachable world M → P M → p M ctx call →
      Effect world ctx call M M' → P M')
    (hrun : RunWhere world p Ledger.empty L) (hempty : P Ledger.empty) : P L := by
  induction hrun with
  | refl => exact hempty
  | step hrun ctx call hp ih =>
      exact step_cases ih fun _ _ hexec =>
        hstep _ ctx call _ (run_of_runWhere hrun) ih hp (exec_effect hexec)

theorem forall_of_appended {key : String} {actor : Dict} {locked : InstanceRow}
    {append : Append} {event : EventRow} {P : String → View → Prop}
    (h : Appended world key actor locked append event L L')
    (hL : ∀ w, P w (L.view w))
    (hown : P locked.workflowId (L'.view locked.workflowId)) (w : String) :
    P w (L'.view w) := by
  by_cases hw : w = locked.workflowId
  · subst hw
    exact hown
  · rw [h.frame w hw]
    exact hL w

theorem forall_of_opened {row : InstanceRow} {state : State}
    {P : String → View → Prop} (h : Opened row state L L')
    (hL : ∀ w, P w (L.view w))
    (hown : P row.workflowId (L'.view row.workflowId)) (w : String) :
    P w (L'.view w) := by
  by_cases hw : w = row.workflowId
  · subst hw
    exact hown
  · rw [h.frame w hw]
    exact hL w

theorem keeps_of_seamEffect {seam : Seam} {P : Ledger → Prop}
    (hsame : ∀ M M', SameViews M M' → P M → P M')
    (happend : ∀ locked append event M',
      L.row? seam.workflowId = some locked →
      (locked.currentSequence : Int) = seam.expectedSequence →
      seam.precheck L = .ok () → seam.kindCheck locked = .ok () →
      seam.plan L locked = .ok append →
      Appended world seam.idempotencyKey seam.actor locked append event L M' → P M')
    (h : SeamEffect world seam L L') (hL : P L) : P L' := by
  cases h with
  | kept h => exact hsame _ _ h hL
  | appended locked append event L₁ hrow hseq hprecheck hkind hplan happended hafter =>
      exact hsame _ _ hafter (happend locked append event L₁ hrow hseq hprecheck hkind
        hplan happended)

theorem invariant_of_writes {P : Ledger → Prop}
    (hwrite : ∀ M M', P M → Write world M M' → P M') (hrun : Run world L L')
    (hL : P L) : P L' := by
  refine invariant_of_run (fun M ctx call reply M' hM _ hexec => ?_) hrun hL
  have hwrites := writes_of_effect (exec_effect hexec)
  clear hexec
  induction hwrites with
  | refl => exact hM
  | tail _ hlast ih => exact hwrite _ _ ih hlast

theorem eventsOf_prefix_of_writes (h : Writes world L L') (w : String) :
    L.eventsOf w <+: L'.eventsOf w := by
  induction h with
  | refl => exact List.prefix_rfl
  | @tail M M' _ hlast ih =>
      refine ih.trans ?_
      change (M.view w).events <+: (M'.view w).events
      cases hlast with
      | kept h => rw [h w]
      | opened row state h =>
          by_cases hw : w = row.workflowId
          · subst hw
            rw [h.own]
            exact List.prefix_rfl
          · rw [h.frame w hw]
      | appended key actor locked append event hcatalogue h =>
          by_cases hw : w = locked.workflowId
          · subst hw
            rw [h.own.events]
            exact List.prefix_append _ _
          · rw [h.frame w hw]

/-! ## The chain of a workflow -/

def eventLinks : Links EventRow String where
  sequence := EventRow.sequence
  previous := EventRow.previousEventHash
  hash := EventRow.eventHash

structure Chained (world : World) (row : InstanceRow) (events : List EventRow) :
    Prop where
  linked : Linked eventLinks none 0 events
  currentSequence : row.currentSequence = events.length
  eventCount : row.eventCount = events.length
  currentEventHash : row.currentEventHash = tip eventLinks none events
  canonicalEventBytes :
    row.canonicalEventBytes = (events.map EventRow.canonicalBytes).sum
  eventHash : ∀ e ∈ events, chainedHash world e.previousEventHash
    (.obj (eventCoreFromRow e)) = .ok e.eventHash
  keys : (events.map EventRow.idempotencyKey).Nodup

def ChainOf (world : World) (V : View) : Prop :=
  match V.row with
  | none => V.events = [] ∧ V.projection = none
  | some row => Chained world row V.events

theorem chainOf_none {V : View} (h : V.row = none) :
    ChainOf world V ↔ V.events = [] ∧ V.projection = none := by
  unfold ChainOf
  rw [h]

theorem chainOf_some {V : View} {row : InstanceRow} (h : V.row = some row) :
    ChainOf world V ↔ Chained world row V.events := by
  unfold ChainOf
  rw [h]

theorem chained_of_freshRow {row : InstanceRow} {state : State}
    (h : FreshRow row state) : Chained world row [] where
  linked := trivial
  currentSequence := h.currentSequence
  eventCount := h.eventCount
  currentEventHash := h.currentEventHash
  canonicalEventBytes := h.canonicalEventBytes
  eventHash := by simp
  keys := List.nodup_nil

theorem chained_of_appendedTo {key : String} {actor : Dict} {locked : InstanceRow}
    {append : Append} {event : EventRow} {V V' : View}
    (hV : Chained world locked V.events)
    (h : AppendedTo world key actor locked append event V V')
    (deadline : Option Timestamp) :
    Chained world (appendedRow locked append event deadline) V'.events := by
  rw [h.events]
  constructor
  case linked =>
    refine (linked_append_singleton _ _ _ _ _).mpr ⟨hV.linked, ?_, ?_⟩
    · change event.sequence = _
      rw [h.isSealed.sequence, hV.currentSequence]
      omega
    · change event.previousEventHash = _
      rw [h.isSealed.previousEventHash, hV.currentEventHash]
  case currentSequence =>
    simp [appendedRow, advancedRow, hV.currentSequence]
  case eventCount =>
    simp [appendedRow, advancedRow, hV.eventCount]
  case currentEventHash =>
    rw [tip_append_singleton]
    rfl
  case canonicalEventBytes =>
    simp [appendedRow, advancedRow, hV.canonicalEventBytes]
  case eventHash =>
    intro e he
    rcases List.mem_append.mp he with he | he
    · exact hV.eventHash e he
    · rw [List.mem_singleton.mp he]
      exact h.isSealed.eventHash
  case keys =>
    have hfresh := lookup_eq_none_iff.mp h.fresh
    rw [List.map_append, List.nodup_append]
    refine ⟨hV.keys, by simp, ?_⟩
    rintro k hk k' hk' rfl
    have hlast : k = event.idempotencyKey := by simpa using hk'
    rw [hlast, h.idempotencyKey] at hk
    exact hfresh hk

theorem chainOf_of_write {M M' : Ledger} (hM : ∀ w, ChainOf world (M.view w))
    (h : Write world M M') (w : String) : ChainOf world (M'.view w) := by
  cases h with
  | kept h => rw [h w]; exact hM w
  | opened row state h =>
      by_cases hw : w = row.workflowId
      · subst hw
        have hold := (chainOf_none h.absent).mp (hM row.workflowId)
        rw [h.own]
        refine (chainOf_some rfl).mpr ?_
        change Chained world row (M.view row.workflowId).events
        rw [hold.1]
        exact chained_of_freshRow h.fresh
      · rw [h.frame w hw]
        exact hM w
  | appended key actor locked append event hcatalogue h =>
      by_cases hw : w = locked.workflowId
      · subst hw
        have hold := (chainOf_some h.own.row).mp (hM locked.workflowId)
        obtain ⟨deadline, -, hrow⟩ := h.own.advanced
        exact (chainOf_some hrow).mpr (chained_of_appendedTo hold h.own deadline)
      · rw [h.frame w hw]
        exact hM w

theorem chainOf_empty (w : String) : ChainOf world (Ledger.empty.view w) :=
  (chainOf_none rfl).mpr ⟨rfl, rfl⟩

theorem chainOf_of_reachable (h : Reachable world L) (w : String) :
    ChainOf world (L.view w) :=
  invariant_of_writes (P := fun M => ∀ w, ChainOf world (M.view w))
    (fun _ _ hM hwrite => chainOf_of_write hM hwrite) h chainOf_empty w

theorem view_of_absent (hL : Reachable world L) {w : String}
    (habsent : L.row? w = none) :
    L.view w = ⟨none, [], none⟩ := by
  obtain ⟨hevents, hprojection⟩ := (chainOf_none habsent).mp (chainOf_of_reachable hL w)
  change View.mk (L.row? w) (L.eventsOf w) (L.projection? w) = _
  rw [habsent]
  exact congr (congrArg _ hevents) hprojection

/-! ## The bounds of a segment -/

structure Bounded (row : InstanceRow) : Prop where
  eventCount : row.eventCount ≤ maxSegmentEvents
  canonicalEventBytes : row.canonicalEventBytes ≤ maxSegmentBytes
  openEventCount : row.terminal = false → row.eventCount ≤ maxSegmentEvents - 1
  openCanonicalEventBytes : row.terminal = false →
    row.canonicalEventBytes ≤ maxSegmentBytes - 16384

theorem bounded_of_freshRow {row : InstanceRow} {state : State}
    (h : FreshRow row state) : Bounded row := by
  constructor <;> simp [h.eventCount, h.canonicalEventBytes]

theorem eventType_of_planned {source : Option Operation} {locked : InstanceRow}
    {append : Append} (h : Planned source locked append) : append.eventType ≠ .segmentRollover := by
  cases h with
  | recorded append _ _ hrollover => exact hrollover
  | _ => simp [admission, reEvaluation]

theorem terminal_of_rollover {locked : InstanceRow} {append : Append}
    (h : Catalogue locked append) (htype : append.eventType = .segmentRollover) :
    append.terminal = some true := by
  cases h with
  | planned h => exact absurd htype (eventType_of_planned h)
  | terminated => cases htype
  | closed => cases htype
  | rolledOver => rfl

theorem bounded_of_appendedTo {key : String} {actor : Dict} {locked : InstanceRow}
    {append : Append} {event : EventRow} {V V' : View} (hlocked : Bounded locked)
    (hcatalogue : Catalogue locked append)
    (h : AppendedTo world key actor locked append event V V')
    (deadline : Option Timestamp) :
    Bounded (appendedRow locked append event deadline) := by
  obtain ⟨hplain, hrollover⟩ := requireCapacity_eq_ok.mp h.capacity
  have hcount := hlocked.openEventCount h.nonterminal
  have hbytes := hlocked.openCanonicalEventBytes h.nonterminal
  have hsize := h.isSealed.canonicalBytes_le
  simp only [maxSegmentEvents, maxSegmentBytes, maxInlineBytes] at *
  by_cases htype : append.eventType = .segmentRollover
  · have hterminal := terminal_of_rollover hcatalogue htype
    have hmost := hrollover htype
    constructor <;>
      simp only [appendedRow, advancedRow, hterminal, Option.getD_some,
        maxSegmentEvents, maxSegmentBytes] <;> first | omega | simp
  · obtain ⟨hroom, hmost⟩ := hplain htype
    constructor <;>
      simp only [appendedRow, advancedRow, maxSegmentEvents, maxSegmentBytes] <;> omega

theorem bounded_of_write {M M' : Ledger}
    (hM : ∀ w row, M.row? w = some row → Bounded row) (h : Write world M M')
    (w : String) (row : InstanceRow) (hrow : M'.row? w = some row) : Bounded row := by
  cases h with
  | kept h =>
      have hview := congrArg View.row (h w)
      exact hM w row (hview.symm.trans hrow)
  | opened fresh state h =>
      by_cases hw : w = fresh.workflowId
      · subst hw
        have hview := congrArg View.row h.own
        cases hview.symm.trans hrow
        exact bounded_of_freshRow h.fresh
      · have hview := congrArg View.row (h.frame w hw)
        exact hM w row (hview.symm.trans hrow)
  | appended key actor locked append event hcatalogue h =>
      by_cases hw : w = locked.workflowId
      · subst hw
        obtain ⟨deadline, -, hadvanced⟩ := h.own.advanced
        cases hadvanced.symm.trans hrow
        exact bounded_of_appendedTo (hM _ _ h.own.row) hcatalogue h.own deadline
      · have hview := congrArg View.row (h.frame w hw)
        exact hM w row (hview.symm.trans hrow)

theorem bounded_of_reachable (h : Reachable world L) {w : String}
    {row : InstanceRow} (hrow : L.row? w = some row) : Bounded row :=
  invariant_of_writes (P := fun M => ∀ w row, M.row? w = some row → Bounded row)
    (fun _ _ hM hwrite => bounded_of_write hM hwrite) h
    (by intro w row hrow; cases hrow) w row hrow

end MindscapeLocalCore.DurableState.Chain
