import MindscapeLocalCore.DurableState.CallEffects
import MindscapeLocalCore.DurableState.Progress

/-!
A ledger with a single workflow: appends that find their values small and their keys
new go through one after the other, up to the boundary of the segment.
-/

namespace MindscapeLocalCore.DurableState.SingleWorkflow

open Library.Guarded Library.Hex Library.Json Library.JsonText Library.Table AppendEffects
open CallEffects Calls CanonicalJson Contracts Events Facade FacadeAppend Progress Records
open Records.Ledger Reducers Repository

/-! ## Numbered names -/

def numbered (stem : String) (n : Nat) : String :=
  String.ofList (stem.toList ++ hexText 4 n)

theorem numbered_injective {stem : String} {a b : Nat} (ha : a < 16 ^ 4) (hb : b < 16 ^ 4)
    (h : numbered stem a = numbered stem b) : a = b := by
  have hlist := congrArg String.toList h
  simp only [numbered, String.toList_ofList, List.append_cancel_left_eq] at hlist
  have hmod := hexText_injective hlist
  rwa [Nat.mod_eq_of_lt ha, Nat.mod_eq_of_lt hb] at hmod

theorem quoteSize_numbered (stem : String) (n : Nat) :
    quoteSize (numbered stem n) = quoteSize stem + 4 := by
  have hdigits := quoteSize_hexText 4 n
  simp only [quoteSize, String.toList_ofList] at hdigits
  simp only [quoteSize, numbered, String.toList_ofList, List.flatMap_append,
    String.utf8Len_append]
  omega

theorem short_numbered {stem : String} (hlength : stem.length ≤ 190)
    (hsize : quoteSize stem ≤ 240) (n : Nat) : Short (numbered stem n) := by
  have hquote := quoteSize_numbered stem n
  have hnumbered : (numbered stem n).length = stem.length + 4 := by
    simp [numbered]
  exact ⟨by omega, by omega, by omega⟩

/-- The draw of the `n`th event. -/
def drawAt (n : Nat) : Draw where
  eventId := numbered "00000000-0000-4000-8000-00000000" n
  occurredAt := "2026-07-26T00:00:00Z"

/-- A surrounding whose draws start with that of the `n`th event. -/
def contextAt (facade : Facade) (n : Nat) : Context where
  facade := facade
  now := 0
  draw i := drawAt (n + i)

def service : Dict :=
  [("actor_id", .str "durable-ledger-test"), ("actor_type", .str "service")]

/-! ## Ledgers -/

/-- A ledger with one open workflow of `n` events. -/
structure Solo (row : InstanceRow) (n : Nat) (used : EventRow → Prop) (state : Dict)
    (L : Ledger) : Prop where
  instances : L.instances = [row]
  currentSequence : row.currentSequence = n
  eventCount : row.eventCount = n
  nonterminal : row.terminal = false
  canonicalEventBytes : row.canonicalEventBytes ≤ n * 6600
  hash : HashColumn row.currentEventHash
  workflowId : Short row.workflowId
  segmentId : Short row.segmentId
  events : ∀ e ∈ L.events, used e ∧ e.workflowId = row.workflowId ∧ e.sequence ≤ n ∧
    ∃ i < n, e.eventId = (drawAt i).eventId
  projections : L.projections = [] ∨
    ∃ p, L.projections = [p] ∧ p.workflowId = row.workflowId
  state : priorState (L.projection? row.workflowId) row = .ok state

variable {world : World} {row : InstanceRow} {n : Nat} {used : EventRow → Prop}
  {state : Dict} {L : Ledger}

theorem row?_of_solo (h : Solo row n used state L) : L.row? row.workflowId = some row := by
  simp [row?, h.instances, lookup]

theorem eventsOf_of_solo (h : Solo row n used state L) :
    L.eventsOf row.workflowId = L.events := by
  unfold eventsOf select
  rw [List.filter_eq_self]
  intro e he
  simpa using (h.events e he).2.1

theorem findIdempotentEvent_of_solo (h : Solo row n used state L) {key : String}
    (hfresh : ∀ e, used e → e.idempotencyKey ≠ key) :
    findIdempotentEvent L row.workflowId key = none := by
  rw [findIdempotentEvent, eventsOf_of_solo h, lookup_eq_none_iff]
  intro hmem
  obtain ⟨e, he, heq⟩ := List.mem_map.mp hmem
  exact hfresh e (h.events e he).1 heq

/-- What a new event needs to fit on a single workflow. -/
structure Suits (world : World) (n : Nat) (used : EventRow → Prop) (state : Dict)
    (key : String) (actor : Dict) (append : Append) (bound : Bindings) (L : Ledger) :
    Prop where
  actorValid : eventActor.valid (.obj actor) = true
  actorSize : size canonical (.obj actor) ≤ 100 ∧ size jsonbStyle (.obj actor) ≤ 4096
  contractual : append.eventType ≠ .outcomeEvaluationIntentCreated
  payloadSize : size canonical (.obj append.payload) ≤ 4800 ∧
    size jsonbStyle (.obj append.payload) ≤ 16384
  fresh : ∀ e, used e → e.idempotencyKey ≠ key
  timer : bindText append.timerId = .ok bound.timerId
  message : bindText append.externalMessageId = .ok bound.externalMessageId
  deadline : bindTimestamp world append.nextDurableDeadline = .ok bound.deadline
  freshTimer : ∀ id, bound.timerId = some id → ∀ e, used e → e.timerId ≠ some id
  freshMessage : ∀ id, bound.externalMessageId = some id →
    ∀ e, used e → e.externalMessageId ≠ some id
  freshReceipts : ∀ e : EventRow, e.eventType = append.eventType →
    e.payload = append.payload → partialKey terminalReceiptId e L.events ∧
      partialKey enrollmentTerminalReceiptId e L.events
  reduced : ∀ e : EventRow, e.eventType = append.eventType →
    e.payload = append.payload → e.sequence = n + 1 → IsDigest e.eventHash →
    ∃ state', reduceV1 world state e = .ok state' ∧ size canonical (.obj state') ≤ 16384 ∧
      size jsonbStyle (.obj state') ≤ 16384

/-- What is known of the event that was stored, and of the ledger after it. -/
structure Grown (world : World) (row : InstanceRow) (n : Nat) (used : EventRow → Prop)
    (state : Dict) (key : String) (actor : Dict) (append : Append) (bound : Bindings)
    (event : EventRow) (state' : Dict) (L L' : Ledger) : Prop where
  appended : Appended world key actor row append event L L'
  timerId : event.timerId = bound.timerId
  externalMessageId : event.externalMessageId = bound.externalMessageId
  eventHash : IsDigest event.eventHash
  reduced : reduceV1 world state event = .ok state'
  instances : L'.instances = [appendedRow row append event bound.deadline]
  events : L'.events = L.events ++ [event]
  controls : SameControls L L'
  solo : append.terminal.getD false = false →
    Solo (appendedRow row append event bound.deadline) (n + 1) (fun e => used e ∨ e = event) state' L'

theorem fits_of_suits {key : String} {actor : Dict} {append : Append} {bound : Bindings}
    (h : Solo row n used state L) (hn : n < 9999)
    (hs : Suits world n used state key actor append bound L) :
    Fits world (drawAt n) row key actor append bound L where
  row := row?_of_solo h
  nonterminal := h.nonterminal
  capacity := fun _ => by
    have hbytes := h.canonicalEventBytes
    have hcount := h.eventCount
    simp only [maxSegmentBytes]
    omega
  capacityRollover := by
    have hbytes := h.canonicalEventBytes
    have hcount := h.eventCount
    simp only [maxSegmentBytes]
    omega
  hash := h.hash
  workflowId := h.workflowId
  segmentId := h.segmentId
  sequence := by
    have hsequence := h.currentSequence
    omega
  eventId := short_numbered (by decide) (by decide) n
  occurredAt := by
    change quoteSize "2026-07-26T00:00:00Z" ≤ 250
    decide
  contractual := hs.contractual
  actorValid := hs.actorValid
  actorSize := ⟨hs.actorSize.1.trans (by decide), hs.actorSize.2⟩
  payloadSize := ⟨hs.payloadSize.1.trans (by decide), hs.payloadSize.2⟩
  fresh := findIdempotentEvent_of_solo h hs.fresh
  freshEventId := by
    intro e he heq
    obtain ⟨-, -, -, i, hi, hid⟩ := h.events e he
    have hsame := numbered_injective (by omega) (by omega) (hid.symm.trans heq)
    omega
  freshSequence := by
    intro e he
    rw [eventsOf_of_solo h] at he
    have hsequence := (h.events e he).2.2.1
    have hcurrent := h.currentSequence
    omega
  timer := hs.timer
  message := hs.message
  deadline := hs.deadline
  freshTimer := by
    intro id hid e he
    rw [eventsOf_of_solo h] at he
    exact hs.freshTimer id hid e (h.events e he).1
  freshMessage := by
    intro id hid e he
    rw [eventsOf_of_solo h] at he
    exact hs.freshMessage id hid e (h.events e he).1
  freshReceipts := hs.freshReceipts
  projected := by
    intro e htype hpayload hsequence hhash
    rw [h.currentSequence] at hsequence
    obtain ⟨state', hreduce, hsizes⟩ := hs.reduced e htype hpayload hsequence hhash
    exact ⟨state, state', h.state, hreduce, hsizes⟩

theorem solo_of_stored {key : String} {actor : Dict} {append : Append} {bound : Bindings}
    {event : EventRow} {state' : Dict} {L' : Ledger} (h : Solo row n used state L)
    (hstored : Stored world (drawAt n) row key actor append bound event L L')
    (hactor : size canonical (.obj actor) ≤ 100)
    (hpayload : size canonical (.obj append.payload) ≤ 4800)
    (hopen : append.terminal.getD false = false) {stateHash : String}
    (hprojection : L'.projection? row.workflowId =
      some ⟨row.workflowId, event.sequence, row.reducerVersion, stateHash, state'⟩) :
    Solo (appendedRow row append event bound.deadline) (n + 1) (fun e => used e ∨ e = event) state'
      L' := by
  have hown := hstored.appended.own
  have hsequence := hown.isSealed.sequence
  constructor
  case instances =>
    rw [hstored.instances, h.instances]
    simp [advancedRows, amend, appendedRow]
  case currentSequence => simp [appendedRow, advancedRow, h.currentSequence]
  case eventCount => simp [appendedRow, advancedRow, h.eventCount]
  case nonterminal =>
    cases hterminal : append.terminal with
    | none => simp [appendedRow, advancedRow, hterminal, h.nonterminal]
    | some terminal => simpa [appendedRow, advancedRow, hterminal] using hopen
  case canonicalEventBytes =>
    have hbytes := h.canonicalEventBytes
    have hevent := hstored.canonicalBytes
    simp only [appendedRow, advancedRow]
    omega
  case hash =>
    rintro text ⟨⟩
    exact hstored.eventHash
  case workflowId => exact h.workflowId
  case segmentId => exact h.segmentId
  case events =>
    intro e he
    rw [hstored.events] at he
    rcases List.mem_append.mp he with he | he
    · obtain ⟨hused, hworkflow, hold, i, hi, hid⟩ := h.events e he
      exact ⟨.inl hused, hworkflow, by omega, i, by omega, hid⟩
    · rw [List.mem_singleton.mp he]
      have hcurrent := h.currentSequence
      exact ⟨.inr rfl, hown.isSealed.workflowId, by omega, n, by omega, hstored.eventId⟩
  case projections => exact .inr (hstored.projections h.projections)
  case state =>
    change priorState (L'.projection? row.workflowId) _ = _
    rw [hprojection]
    simp only [priorState, bind_eq_ok, exists_unit, require_eq_ok, pure_eq_ok]
    exact ⟨hsequence, trivial⟩

theorem appendLocked_of_suits {key : String} {actor : Dict} {append : Append}
    {bound : Bindings}
    (h : Solo row n used state L) (hn : n < 9999)
    (hs : Suits world n used state key actor append bound L) (facade : Facade) :
    ∃ event state' L', appendLocked world facade (drawAt n) row key actor append L =
        .ok (event, L') ∧
      Grown world row n used state key actor append bound event state' L L' := by
  obtain ⟨event, L', happend, hstored⟩ := appendLocked_isOk (fits_of_suits h hn hs) facade
  obtain ⟨prior, state', stateHash, hprior, hreduce, -, hprojection⟩ :=
    hstored.appended.own.projected
  cases h.state.symm.trans hprior
  refine ⟨event, state', L', happend, ?_⟩
  constructor
  case appended => exact hstored.appended
  case timerId => exact hstored.timerId
  case externalMessageId => exact hstored.externalMessageId
  case eventHash => exact hstored.eventHash
  case reduced => exact hreduce
  case instances =>
    rw [hstored.instances, h.instances]
    simp [advancedRows, amend, appendedRow]
  case events => exact hstored.events
  case controls => exact hstored.controls
  case solo =>
    exact fun hopen => solo_of_stored h hstored hs.actorSize.1 hs.payloadSize.1 hopen hprojection

/-! ## Calls -/

theorem Solo.mono {used' : EventRow → Prop} (h : Solo row n used state L)
    (hused : ∀ e, used e → used' e) : Solo row n used' state L :=
  { h with
    events := fun e he => by
      obtain ⟨hevent, hrest⟩ := h.events e he
      exact ⟨hused e hevent, hrest⟩ }

theorem runWhere_of_exec {p : Ledger → Context → Call → Prop} {M M' : Ledger} {ctx : Context}
    {call : Call} {reply : Reply} (hrun : RunWhere world p L M) (hp : p M ctx call)
    (h : exec world ctx call M = .ok (reply, M')) : RunWhere world p L M' := by
  have hstep : step world ctx call M = M' := by
    simp only [step, h]
  exact hstep ▸ .step hrun ctx call hp

theorem run_of_exec {M M' : Ledger} {ctx : Context} {call : Call} {reply : Reply}
    (hrun : Run world L M) (h : exec world ctx call M = .ok (reply, M')) :
    Run world L M' := runWhere_of_exec hrun trivial h

theorem exec_append_of_suits {append : Append} {bound : Bindings} (facade : Facade)
    (operation : Operation) (input : AppendInput) (h : Solo row n used state L) (hn : n < 9999)
    (hworkflow : input.workflowId = row.workflowId) (hsequence : input.expectedSequence = n)
    (hprecheck : (operation.seam world facade input).precheck L = .ok ())
    (hkind : (operation.seam world facade input).kindCheck row = .ok ())
    (hplan : (operation.seam world facade input).plan L row = .ok append)
    (hs : Suits world n used state input.idempotencyKey input.actor append bound L) :
    ∃ event state' L₁, Grown world row n used state input.idempotencyKey input.actor append
        bound event state' L L₁ ∧
      ∀ L', (operation.seam world facade input).after L₁ = .ok L' →
        exec world (contextAt facade n) (.append input operation) L =
          .ok (.event event, L') := by
  obtain ⟨event, state', L₁, happend, hgrown⟩ := appendLocked_of_suits h hn hs facade
  refine ⟨event, state', L₁, hgrown, fun L' hafter => ?_⟩
  have hseam : (operation.seam world facade input).workflowId = input.workflowId ∧
      (operation.seam world facade input).expectedSequence = input.expectedSequence ∧
      (operation.seam world facade input).idempotencyKey = input.idempotencyKey ∧
      (operation.seam world facade input).actor = input.actor := by
    cases operation <;> exact ⟨rfl, rfl, rfl, rfl⟩
  obtain ⟨hseamWorkflow, hseamSequence, hseamKey, hseamActor⟩ := hseam
  have hrun : (operation.seam world facade input).run world facade (drawAt n) L =
      .ok (event, L') := by
    refine Seam.run_eq_ok.mpr ⟨hprecheck, .planned row append L₁ ?_ ?_ hkind hplan ?_ hafter⟩
    · rw [hseamWorkflow, hworkflow]
      exact row?_of_solo h
    · rw [hseamSequence, hsequence, h.currentSequence]
    · rw [hseamKey, hseamActor]
      exact happend
  exact replying_eq_ok.mpr ⟨event, hrun, rfl⟩

end MindscapeLocalCore.DurableState.SingleWorkflow
