import MindscapeLocalCore.DurableState.Terminal

/-!
The durable deadline of a workflow: it is that of the newest event, so that a recorded
timer keeps it only until something else is appended.
-/

namespace MindscapeLocalCore.DurableState.Deadlines

open Library.Guarded Library.Json AppendEffects CallEffects Calls CanonicalJson Chain Errors
open ExecutionRuns Facade FacadeAppend ProductIterations Records Records.Ledger Repository Samples
open SingleWorkflow TerminalReceipts Transitions

def deadlineOf (world : World) (event : EventRow) : Option Timestamp :=
  (recordedDeadline event.eventType event.payload).bind world.timestamptz

/-- The deadline of a row is that of the newest event. -/
structure Latest (world : World) (V : View) : Prop where
  deadline : ∀ row, V.row = some row →
    row.nextDurableDeadline = V.events.getLast?.bind (deadlineOf world)
  recorded : ∀ e ∈ V.events, e.eventType = .timerRecorded → deadlineOf world e ≠ none

variable {world : World} {L L' : Ledger} {w : String}

theorem deadlineOf_of_ne {event : EventRow} (h : event.eventType ≠ .timerRecorded) :
    deadlineOf world event = none := by
  unfold deadlineOf recordedDeadline
  split
  · exact absurd ‹_› h
  · rfl

theorem bindTimestamp_eq_ok {text : Option String} {deadline : Option Timestamp}
    (h : bindTimestamp world text = .ok deadline) : deadline = text.bind world.timestamptz := by
  unfold bindTimestamp at h
  split at h
  · cases h
    rfl
  · split at h
    · rename_i time htime
      cases h
      exact htime.symm
    · cases h

theorem timed_of_catalogue {locked : InstanceRow} {append : Append}
    (h : Catalogue locked append) : Timed append := by
  cases h with
  | planned h =>
      cases h with
      | recorded append _ _ _ _ _ _ htimed => exact htimed
      | _ => exact ⟨rfl, nofun⟩
  | _ => exact ⟨rfl, nofun⟩

variable {key : String} {actor : Dict} {locked : InstanceRow} {append : Append}
  {event : EventRow} {V V' : View}

theorem latest_of_appendedTo (hV : Latest world V) (htimed : Timed append)
    (h : AppendedTo world key actor locked append event V V') : Latest world V' := by
  obtain ⟨deadline, hbound, hadvanced⟩ := h.advanced
  have hown : deadline = deadlineOf world event := by
    rw [bindTimestamp_eq_ok hbound, htimed.deadline, deadlineOf, h.eventType, h.payload]
  constructor
  case deadline =>
    intro row hrow
    cases hadvanced.symm.trans hrow
    rw [h.events, List.getLast?_concat]
    exact hown
  case recorded =>
    intro e he htype
    rw [h.events] at he
    rcases List.mem_append.mp he with he | he
    · exact hV.recorded e he htype
    · rw [List.mem_singleton.mp he] at htype ⊢
      rw [← hown]
      intro hnone
      obtain ⟨text, htext⟩ := Option.ne_none_iff_exists'.mp
        (htimed.timer (h.eventType.symm.trans htype))
      rw [htext, bindTimestamp] at hbound
      split at hbound
      · cases hbound
        cases hnone
      · cases hbound

theorem latest_of_write {M M' : Ledger}
    (hM : ∀ w, ChainOf world (M.view w) ∧ Latest world (M.view w)) (h : Write world M M')
    (w : String) : Latest world (M'.view w) := by
  cases h with
  | kept h =>
      rw [h w]
      exact (hM w).2
  | opened row state h =>
      refine forall_of_opened (P := fun _ => Latest world) h (fun w => (hM w).2) ?_ w
      obtain ⟨hevents, -⟩ := (chainOf_none h.absent).mp (hM row.workflowId).1
      rw [h.own]
      change M.eventsOf row.workflowId = [] at hevents
      rw [hevents]
      constructor
      · rintro _ ⟨⟩
        exact h.fresh.nextDurableDeadline
      · exact fun e he => nomatch he
  | appended key actor locked append event hcatalogue h =>
      exact forall_of_appended (P := fun _ => Latest world) h (fun w => (hM w).2)
        (latest_of_appendedTo (hM _).2 (timed_of_catalogue hcatalogue) h.own) w

theorem latest_of_reachable (hL : Reachable world L) (w : String) :
    Latest world (L.view w) :=
  (invariant_of_writes
    (P := fun M => ∀ w, ChainOf world (M.view w) ∧ Latest world (M.view w))
    (fun _ _ hM hwrite w =>
      ⟨chainOf_of_write (fun w => (hM w).1) hwrite w, latest_of_write hM hwrite w⟩)
    hL (fun w => ⟨chainOf_empty w, ⟨(fun _ h => nomatch h), (fun _ h => nomatch h)⟩⟩) w).2

/-! ## Kept deadlines -/

/-- The deadline of a workflow is set and not later than that of any recorded timer. -/
def Kept (world : World) (row : InstanceRow) (events : List EventRow) : Prop :=
  ∃ deadline, row.nextDurableDeadline = some deadline ∧
    ∀ e ∈ events, ∀ time, deadlineOf world e = some time → deadline ≤ time

def TimerLast (world : World) (events : List EventRow) : Prop :=
  ∃ last, events.getLast? = some last ∧ last.eventType = .timerRecorded ∧
    ∀ e ∈ events, ∀ deadline time, deadlineOf world last = some deadline →
      deadlineOf world e = some time → deadline ≤ time

theorem kept_iff {row : InstanceRow} {V : View} (h : Latest world V) (hrow : V.row = some row) :
    Kept world row V.events ↔ TimerLast world V.events := by
  have hdeadline := h.deadline row hrow
  constructor
  · rintro ⟨deadline, hset, hleast⟩
    rw [hset] at hdeadline
    obtain ⟨last, hlast, hown⟩ := Option.bind_eq_some_iff.mp hdeadline.symm
    refine ⟨last, hlast, ?_, fun e he deadline' time hdeadline' htime => ?_⟩
    · by_contra hne
      rw [deadlineOf_of_ne hne] at hown
      cases hown
    · cases hown.symm.trans hdeadline'
      exact hleast e he time htime
  · rintro ⟨last, hlast, htype, hleast⟩
    obtain ⟨deadline, hown⟩ := Option.ne_none_iff_exists'.mp
      (h.recorded last (List.mem_of_getLast? hlast) htype)
    rw [hlast, Option.bind_some, hown] at hdeadline
    exact ⟨deadline, hdeadline, fun e he time htime => hleast e he deadline time hown htime⟩

/-! ## Runs -/

def HasTimer (events : List EventRow) : Prop := ∃ e ∈ events, e.eventType = .timerRecorded

def Closing : Call → Prop
  | .append _ (.finalizeIterationDecision _ _) => True
  | .append _ (.closeProductIterationInconclusive _) => True
  | .supersedeProductIteration _ _ => True
  | .appendExecutionTerminal _ _ _ => True
  | .rolloverSegment _ _ => True
  | _ => False

/-- A call that finds its sequence current and its key new, where it has them. -/
def Fresh (L : Ledger) : Call → Prop
  | .append input _ => ∃ row, L.row? input.workflowId = some row ∧
      (row.currentSequence : Int) = input.expectedSequence ∧
      findIdempotentEvent L input.workflowId input.idempotencyKey = none
  | _ => True

/-- On an open workflow with a recorded timer every fresh call closes the workflow, or
records a timer that is due no later. -/
def KeepsTimers (world : World) (L : Ledger) (_ : Context) (call : Call) : Prop :=
  ∀ w row, call.workflow? = some w → L.row? w = some row → row.terminal = false →
    HasTimer (L.eventsOf w) → Fresh L call → ¬ Closing call →
    ∃ input timer, call = .append input (.recordTimer timer) ∧
      ∀ text time deadline, textItem timer "deadline" = .ok text →
        world.timestamptz text = some time → row.nextDurableDeadline = some deadline →
        time ≤ deadline

def KeptOf (world : World) (V : View) : Prop := ∀ row, V.row = some row →
  row.terminal = false → HasTimer V.events → Kept world row V.events

/-- An append closes the workflow, or records a timer that is due no later. -/
def KeepsDeadline (world : World) (locked : InstanceRow) (append : Append)
    (event : EventRow) : Prop :=
  append.terminal = some true ∨ event.eventType = .timerRecorded ∧
    ∀ time deadline, deadlineOf world event = some time →
      locked.nextDurableDeadline = some deadline → time ≤ deadline

theorem keptOf_of_appendedTo (hV : KeptOf world V) (hlatest : Latest world V)
    (htimed : Timed append)
    (hkeeps : HasTimer V.events → KeepsDeadline world locked append event)
    (h : AppendedTo world key actor locked append event V V') : KeptOf world V' := by
  intro row hrow hopen htimer
  have hlatest' := latest_of_appendedTo hlatest htimed h
  obtain ⟨bound, -, hadvanced⟩ := h.advanced
  cases hadvanced.symm.trans hrow
  have hclosing : append.terminal ≠ some true := fun heq => by
    simp [appendedRow, advancedRow, heq] at hopen
  rw [h.events]
  by_cases hbefore : HasTimer V.events
  · -- the new timer is due before all others
    obtain ⟨hevent, hleast⟩ := (hkeeps hbefore).resolve_left hclosing
    obtain ⟨time, htime⟩ := Option.ne_none_iff_exists'.mp
      (hlatest'.recorded event (by simp [h.events]) hevent)
    obtain ⟨deadline, hdeadline, hall⟩ := hV locked h.row h.nonterminal hbefore
    have hset := hlatest'.deadline _ hadvanced
    rw [h.events, List.getLast?_concat, Option.bind_some, htime] at hset
    refine ⟨time, hset, fun e he time' htime' => ?_⟩
    rcases List.mem_append.mp he with he | he
    · exact (hleast time deadline htime hdeadline).trans (hall e he time' htime')
    · rw [List.mem_singleton.mp he, htime] at htime'
      cases htime'
      exact le_refl _
  · have hothers : ∀ e ∈ V.events, e.eventType ≠ .timerRecorded :=
      fun e he htype => hbefore ⟨e, he, htype⟩
    have hevent : event.eventType = .timerRecorded := by
      obtain ⟨e, he, htype⟩ := htimer
      rw [h.events] at he
      rcases List.mem_append.mp he with he | he
      · exact absurd htype (hothers e he)
      · rwa [← List.mem_singleton.mp he]
    rw [← h.events]
    refine (kept_iff hlatest' hadvanced).mpr ⟨event, by simp [h.events], hevent, ?_⟩
    intro e he deadline time hdeadline htime
    rw [h.events] at he
    rcases List.mem_append.mp he with he | he
    · rw [deadlineOf_of_ne (hothers e he)] at htime
      cases htime
    · rw [List.mem_singleton.mp he] at htime
      exact (Option.some.inj (hdeadline.symm.trans htime)).le

structure Sound (world : World) (V : View) : Prop where
  chain : ChainOf world V
  latest : Latest world V
  kept : KeptOf world V

theorem sound_of_opened {row : InstanceRow} {state : State}
    (hL : ∀ w, Sound world (L.view w)) (h : Opened row state L L') (w : String) :
    Sound world (L'.view w) := by
  refine ⟨chainOf_of_write (fun w => (hL w).chain) (.opened row state h) w,
    latest_of_write (fun w => ⟨(hL w).chain, (hL w).latest⟩) (.opened row state h) w, ?_⟩
  refine forall_of_opened (P := fun _ => KeptOf world) h (fun w => (hL w).kept) ?_ w
  obtain ⟨hevents, -⟩ := (chainOf_none h.absent).mp (hL row.workflowId).chain
  rw [h.own]
  rintro _ ⟨⟩ _ ⟨e, he, -⟩
  change L.eventsOf row.workflowId = [] at hevents
  change e ∈ L.eventsOf row.workflowId at he
  rw [hevents] at he
  cases he

theorem sound_of_appended {key : String} {actor : Dict} {locked : InstanceRow}
    {append : Append} {event : EventRow} (hL : ∀ w, Sound world (L.view w))
    (hcatalogue : Catalogue locked append)
    (h : Appended world key actor locked append event L L')
    (hkeeps : HasTimer (L.eventsOf locked.workflowId) →
      KeepsDeadline world locked append event) (w : String) : Sound world (L'.view w) := by
  have hwrite : Write world L L' := .appended key actor locked append event hcatalogue h
  refine ⟨chainOf_of_write (fun w => (hL w).chain) hwrite w,
    latest_of_write (fun w => ⟨(hL w).chain, (hL w).latest⟩) hwrite w, ?_⟩
  exact forall_of_appended (P := fun _ => KeptOf world) h (fun w => (hL w).kept)
    (keptOf_of_appendedTo (hL _).kept (hL _).latest (timed_of_catalogue hcatalogue) hkeeps
      h.own) w

theorem sound_of_sameViews (hL : ∀ w, Sound world (L.view w)) (h : SameViews L L')
    (w : String) : Sound world (L'.view w) := by
  rw [h w]
  exact hL w

theorem terminal_of_closing {facade : Facade} {input : AppendInput} {operation : Operation}
    (hclosing : Closing (.append input operation))
    (hplan : (operation.seam world facade input).plan L locked = .ok append) :
    append.terminal = some true := by
  cases operation with
  | finalizeIterationDecision targetState linkage =>
      simp only [Operation.seam, finalizeIterationDecision, iterationSeam,
        bind_eq_ok, exists_unit, check_eq_ok, pure_eq_ok, Except.ok.injEq] at hplan
      obtain ⟨state, -, -, ⟨target, terminal⟩, -, rfl⟩ := hplan
      rfl
  | closeProductIterationInconclusive closure =>
      simp only [Operation.seam, closeProductIterationInconclusive, iterationSeam,
        bind_eq_ok, check_eq_ok, pure_eq_ok, Except.ok.injEq] at hplan
      obtain ⟨⟨target, terminal⟩, -, rfl⟩ := hplan
      rfl
  | _ => exact hclosing.elim

theorem keepsDeadline_of_operation {ctx : Context} {input : AppendInput}
    {operation : Operation} (hp : KeepsTimers world L ctx (.append input operation))
    {key : String} {actor : Dict} {locked : InstanceRow} {append : Append} {event : EventRow}
    (hrow : L.row? input.workflowId = some locked)
    (hseq : (locked.currentSequence : Int) = input.expectedSequence)
    (hplan : (operation.seam world ctx.facade input).plan L locked = .ok append)
    (hkey : key = input.idempotencyKey)
    (h : Appended world key actor locked append event L L')
    (htimer : HasTimer (L.eventsOf locked.workflowId)) :
    KeepsDeadline world locked append event := by
  by_cases hclosing : Closing (.append input operation)
  · exact .inl (terminal_of_closing hclosing hplan)
  · have hid := workflowId_of_row? hrow
    have hfresh : Fresh L (.append input operation) := by
      refine ⟨locked, hrow, hseq, ?_⟩
      have hnew := h.own.fresh
      rw [hid, hkey] at hnew
      exact hnew
    obtain ⟨input', timer, hcall, hleast⟩ := hp input.workflowId locked rfl hrow
      h.own.nonterminal (hid ▸ htimer) hfresh hclosing
    cases hcall
    simp only [Operation.seam, recordTimer, recordPayload, bind_eq_ok, check_eq_ok,
      pure_eq_ok, Except.ok.injEq] at hplan
    obtain ⟨timerId, -, text, htext, rfl⟩ := hplan
    refine .inr ⟨h.own.eventType, fun time deadline htime hdeadline => ?_⟩
    refine hleast text time deadline htext ?_ hdeadline
    have hpayload : event.payload.get? "deadline" = some (.str text) := by
      rw [h.own.payload]
      exact textItem_eq_ok.mp htext
    have htype : event.eventType = .timerRecorded := h.own.eventType
    simpa [deadlineOf, recordedDeadline, htype, hpayload] using htime

theorem sound_of_seamEffect {source : Option Operation} {seam : Seam}
    (hplanned : ∀ locked append, seam.kindCheck locked = .ok () →
      seam.plan L locked = .ok append → Planned source locked append)
    (hkeeps : ∀ locked append event M, L.row? seam.workflowId = some locked →
      (locked.currentSequence : Int) = seam.expectedSequence →
      seam.kindCheck locked = .ok () → seam.plan L locked = .ok append →
      Appended world seam.idempotencyKey seam.actor locked append event L M →
      HasTimer (L.eventsOf locked.workflowId) → KeepsDeadline world locked append event)
    (h : SeamEffect world seam L L') (hL : ∀ w, Sound world (L.view w)) :
    ∀ w, Sound world (L'.view w) :=
  keeps_of_seamEffect (P := fun M => ∀ w, Sound world (M.view w))
    (fun _ _ hsame hM => sound_of_sameViews hM hsame)
    (fun locked append event M hrow hseq _ hkind hplan happended =>
      sound_of_appended hL (.planned (hplanned locked append hkind hplan)) happended
        (hkeeps locked append event M hrow hseq hkind hplan happended)) h hL

theorem terminal_of_cancellation {input : AppendInput}
    (hkind : (cancellationTransition input).kindCheck locked = .ok ())
    (hplan : (cancellationTransition input).plan L locked = .ok append) :
    append.terminal = some true := by
  have hiteration := transition_kindCheck_eq_ok.mp hkind
  simp only [cancellationTransition, appendTransitionForKind, bind_eq_ok, exists_unit,
    check_eq_ok, require_eq_ok, pure_eq_ok, Except.ok.injEq] at hplan
  obtain ⟨⟨target, terminal⟩, htarget, -, -, rfl⟩ := hplan
  obtain ⟨-, hname, rfl⟩ := requireTransition_eq_ok htarget
  have hcancelled : target = .cancelled := State.name_injective hname
  subst hcancelled
  rw [hiteration]
  rfl

theorem sound_of_terminated {w key key' : String} {actor actor' : Dict}
    {locked after : InstanceRow} {append : Append} {target : State} {signed : Dict}
    {first second : EventRow} {L₁ : Ledger} (hL : ∀ w, Sound world (L.view w))
    (hrow : L.row? w = some locked) (hafter : L₁.row? w = some after)
    (hopening : Catalogue locked append)
    (hclosing : Catalogue after (terminalReceipt target signed))
    (hfirst : AppendEffect world key actor locked append first L L₁)
    (hsecond : Appended world key' actor' after (terminalReceipt target signed) second L₁ L')
    (v : String) : Sound world (L'.view v) := by
  have hfirstWrite := write_of_appendEffect hopening hfirst
  have hsecondWrite : Write world L₁ L' := .appended _ _ after _ second hclosing hsecond
  have hchain := chainOf_of_write (fun w => (hL w).chain) hfirstWrite
  have hlatest := latest_of_write (fun w => ⟨(hL w).chain, (hL w).latest⟩) hfirstWrite
  refine ⟨chainOf_of_write hchain hsecondWrite v,
    latest_of_write (fun w => ⟨hchain w, hlatest w⟩) hsecondWrite v, ?_⟩
  have hid := workflowId_of_row? hrow
  have hafterId := workflowId_of_row? hafter
  by_cases hv : v = w
  · intro row hlast hopen
    obtain ⟨deadline, -, hadvanced⟩ := hsecond.own.advanced
    rw [hv, ← hafterId] at hlast
    cases hadvanced.symm.trans hlast
    cases hopen
  · rw [hsecond.frame v (hafterId ▸ hv), frame_of_appendEffect hfirst (hid ▸ hv)]
    exact (hL v).kept

theorem sound_of_effect {ctx : Context} {call : Call} (hp : KeepsTimers world L ctx call)
    (hL : ∀ w, Sound world (L.view w)) (h : Effect world ctx call L L') :
    ∀ w, Sound world (L'.view w) := by
  cases h with
  | kept h => exact sound_of_sameViews hL h
  | opened row hopened _ => exact sound_of_opened hL hopened
  | founded row append event key actor L₁ hopened hplanned _ happended _ =>
      refine sound_of_appended (sound_of_opened hL hopened) (.planned hplanned) happended ?_
      rintro ⟨e, he, -⟩
      obtain ⟨hevents, -⟩ := (chainOf_none hopened.absent).mp (hL row.workflowId).chain
      have hown := congrArg View.events hopened.own
      change L₁.eventsOf row.workflowId = L.eventsOf row.workflowId at hown
      change L.eventsOf row.workflowId = [] at hevents
      rw [hown, hevents] at he
      cases he
  | @operated input operation _ _ h =>
      have hseam : (operation.seam world ctx.facade input).workflowId = input.workflowId ∧
          (operation.seam world ctx.facade input).expectedSequence =
            input.expectedSequence ∧
          (operation.seam world ctx.facade input).idempotencyKey = input.idempotencyKey := by
        cases operation <;> exact ⟨rfl, rfl, rfl⟩
      refine sound_of_seamEffect (fun _ _ => planned_of_plan _) ?_ h hL
      intro locked append event M hrow hseq _ hplan happended
      rw [hseam.1] at hrow
      rw [hseam.2.1] at hseq
      exact keepsDeadline_of_operation hp hrow hseq hplan hseam.2.2 happended
  | @cancelled input reason _ _ L₁ hrequest htransition =>
      refine sound_of_seamEffect
        (fun _ _ => planned_of_iteration_transition none _ _ _ _)
        (fun _ _ _ _ _ _ hkind hplan _ _ => .inl (terminal_of_cancellation hkind hplan))
        htransition ?_
      refine sound_of_seamEffect (fun _ _ _ hplan => planned_of_cancellationRequest hplan)
        ?_ hrequest hL
      intro locked append event M hrow _ _ _ happended htimer
      change L.row? input.workflowId = some locked at hrow
      rw [workflowId_of_row? hrow] at htimer
      obtain ⟨_, _, hcall, -⟩ := hp input.workflowId locked rfl hrow happended.own.nonterminal
        htimer trivial id
      cases hcall
  | superseded locked event _ _ hplanned happended =>
      exact sound_of_appended hL (.planned hplanned) happended fun _ => .inl rfl
  | intended locked payload event key actor hname _ happended =>
      refine sound_of_appended hL (.planned (planned_of_intent locked payload)) happended ?_
      intro htimer
      obtain ⟨_, _, hcall, -⟩ := hp _ locked hname happended.own.row happended.own.nonterminal
        htimer trivial id
      cases hcall
  | terminated locked after target signed first second L₁ hrow hseq hkind hopen _ htarget
      hsink _ hfirst _ hafter hsecond =>
      have hkind' := (identity_of_appendEffect hrow hafter hfirst).1.trans hkind
      exact sound_of_terminated hL hrow hafter (.terminated target hkind htarget hsink)
        (.closed target signed hkind' hsink) hfirst hsecond
  | rolledOver locked row event L₁ _ _ _ happended hopened _ _ =>
      refine sound_of_opened ?_ hopened
      cases happended with
      | repeated hrepeated =>
          rw [hrepeated.same]
          exact hL
      | appended happended =>
          exact sound_of_appended hL (.rolledOver _) happended fun _ => .inl rfl

theorem kept_of_run (hL : RunWhere world (KeepsTimers world) Ledger.empty L) (w : String) :
    KeptOf world (L.view w) :=
  (invariant_of_reachable (P := fun M => ∀ w, Sound world (M.view w))
    (fun _ _ _ _ _ hM hp heffect => sound_of_effect hp hM heffect) hL
    (fun w => ⟨chainOf_empty w, ⟨(fun _ h => nomatch h), (fun _ h => nomatch h)⟩,
      (fun _ h => nomatch h)⟩) w).kept

/-- The deadline of a workflow with a recorded timer is set and not later than any recorded
one exactly when its newest event is a timer that is due before all others, and it stays so
in a run that only appends such timers to it until it is closed. -/
theorem deadline_kept (hL : Reachable world L) {row : InstanceRow}
    (hrow : L.row? w = some row) (hopen : row.terminal = false)
    (htimer : HasTimer (L.eventsOf w)) :
    (Kept world row (L.eventsOf w) ↔ TimerLast world (L.eventsOf w)) ∧
    (RunWhere world (KeepsTimers world) Ledger.empty L → Kept world row (L.eventsOf w)) :=
  ⟨kept_iff (latest_of_reachable hL w) hrow, fun hrun => kept_of_run hrun w row hrow hopen htimer⟩

theorem timer_stage : ∃ event row state L, Stage 1 (fun e => False ∨ e = event) row state L ∧
    L.events = [event] ∧ event.eventType = .timerRecorded ∧
    event.idempotencyKey = "key:timer" ∧ event.externalMessageId = none ∧
    row.nextDurableDeadline = some 1785024000000000 ∧
    RunWhere testWorld (KeepsTimers testWorld) Ledger.empty L := by
  obtain ⟨row, state, L, hstage, hopen, -⟩ := opened_stage
  obtain ⟨event, row', state', L', hexec, hstep⟩ :=
    timer_step "key:timer" hstage (by decide) nofun nofun
  have hempty : L.events = [] :=
    List.eq_nil_iff_forall_not_mem.mpr fun e he => (hstage.solo.events e he).1
  refine ⟨event, row', state', L', hstep.stage, ?_, hstep.grown.appended.own.eventType,
    hstep.grown.appended.own.idempotencyKey, hstep.grown.externalMessageId, ?_, ?_⟩
  · rw [hstep.grown.events, hempty]
    rfl
  · rw [hstep.row]
    rfl
  · refine runWhere_of_exec (runWhere_of_exec (.refl _) ?_ hopen) ?_ hexec
    · intro w row hcall
      cases hcall
    · rintro w row hcall hrow hopen ⟨e, he, -⟩
      exact ((hstage.solo.events e (List.mem_of_mem_filter he)).1).elim

theorem deadline_kept_timer : ∃ (L : Ledger) (row : InstanceRow),
    L.row? "workflow:test" = some row ∧
    HasTimer (L.eventsOf "workflow:test") ∧
    Kept testWorld row (L.eventsOf "workflow:test") := by
  obtain ⟨event, row, state, L, hstage, hevents, htype, -, -, -, hrun⟩ := timer_stage
  have hrow := row?_of_solo hstage.solo
  have hown := eventsOf_of_solo hstage.solo
  rw [workflowId_of_stage hstage] at hrow hown
  have htimer : HasTimer (L.eventsOf "workflow:test") :=
    ⟨event, by simp [hown, hevents], htype⟩
  exact ⟨L, row, hrow, htimer,
    (deadline_kept hstage.reachable hrow hstage.solo.nonterminal htimer).2 hrun⟩

/-- A message after the timer takes the deadline away. -/
theorem deadline_lost : ∃ L row, Reachable testWorld L ∧
    L.row? "workflow:test" = some row ∧ row.terminal = false ∧
    HasTimer (L.eventsOf "workflow:test") ∧ row.nextDurableDeadline = none := by
  obtain ⟨event, row, state, L, hstage, hevents, htype, hkey, hid, -⟩ := timer_stage
  obtain ⟨second, row', state', L', -, hstep⟩ := message_step "key:test"
    "message:test" hstage (by decide) welcome_service (by decide)
    (by rintro e (h | rfl)
        · exact h.elim
        · rw [hkey]
          decide)
    (by rintro e (h | rfl)
        · exact h.elim
        · rw [hid]
          nofun)
  have hrow := row?_of_solo hstep.stage.solo
  have hown := eventsOf_of_solo hstep.stage.solo
  rw [workflowId_of_stage hstep.stage] at hrow hown
  refine ⟨L', row', hstep.stage.reachable, hrow, hstep.stage.solo.nonterminal,
    ⟨event, ?_, htype⟩, ?_⟩
  · rw [hown, hstep.grown.events, hevents]
    exact List.mem_cons_self
  · rw [hstep.row]
    rfl

end MindscapeLocalCore.DurableState.Deadlines
