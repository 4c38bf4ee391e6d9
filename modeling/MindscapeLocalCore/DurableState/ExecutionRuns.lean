import MindscapeLocalCore.DurableState.Samples

/-!
Runs of the facade on a single execution: recorded messages, timers, cancellations and
transitions go through one after the other, as long as their keys are new.
-/

namespace MindscapeLocalCore.DurableState.ExecutionRuns

open Library Library.Guarded Library.Json Library.JsonText AppendEffects Calls
open CanonicalJson Contracts Errors Facade FacadeAppend Progress Records Records.Ledger Reducers
open Repository Samples SingleWorkflow Transitions

/-! ## Projections without receipts -/

/-- A projection with nothing but the fields that every projection starts with. -/
structure Bare (state : Dict) (s : State) (cancellation : Option String) : Prop where
  shape : ∃ sequence hash,
    state = initialProjection (.str s.name) (Json.ofOption cancellation)
      (Json.nat sequence) hash ∧
    sequence < 10 ^ 6 ∧ (hash = .null ∨ ∃ text, IsDigest text ∧ hash = .str text)
  cancellation : cancellation = none ∨ cancellation = some "requested"

theorem size_state_name (s : State) : quoteSize s.name ≤ 30 := by
  cases s <;> decide

theorem size_of_bare {state : Dict} {s : State} {cancellation : Option String}
    (h : Bare state s cancellation) :
    size canonical (.obj state) ≤ 400 ∧ size jsonbStyle (.obj state) ≤ 400 := by
  obtain ⟨⟨sequence, hash, rfl, hsequence, hhash⟩, hcancellation⟩ := h
  have hkeys : quoteSize "cancellation_state" = 20 ∧ quoteSize "current_state" = 15 ∧
      quoteSize "last_event_hash" = 17 ∧ quoteSize "last_sequence" = 15 := by decide
  have hseparators : canonical.itemSeparator.utf8ByteSize = 1 ∧
      canonical.keySeparator.utf8ByteSize = 1 ∧
      jsonbStyle.itemSeparator.utf8ByteSize = 2 ∧
      jsonbStyle.keySeparator.utf8ByteSize = 2 := by decide
  have hname := size_state_name s
  have hdigits := size_nat_le hsequence
  have hhash : ∀ st : Style, size st hash ≤ 66 := by
    intro st
    rcases hhash with rfl | ⟨text, htext, rfl⟩
    · simp [size]
    · simp [size, quoteSize_of_isDigest htext]
  have hrequested : quoteSize "requested" = 11 := by decide
  have hcancel : ∀ st : Style, size st (Json.ofOption cancellation) ≤ 20 := by
    intro st
    rcases hcancellation with rfl | rfl
    · simp [size]
    · simp [size, hrequested]
  have hcanonical := hhash canonical
  have hjsonb := hhash jsonbStyle
  have hcancelCanonical := hcancel canonical
  have hcancelJsonb := hcancel jsonbStyle
  simp only [initialProjection, size, membersSize, memberSize, hkeys, hseparators]
  omega

variable {world : World} {state : Dict} {s : State} {cancellation : Option String}
  {event : EventRow}

theorem typedReceipt_of_none {payload : Dict} (h : payload.get? "typed_receipt" = none) :
    typedReceipt payload = .ok [] := by
  simp only [typedReceipt, h]

theorem reduce_recorded (h : Bare state s cancellation)
    (htype : event.eventType = .timerRecorded ∨ event.eventType = .externalMessageRecorded ∨
      event.eventType = .segmentRollover)
    (htyped : event.payload.get? "typed_receipt" = none)
    (hsequence : event.sequence < 10 ^ 6) (hhash : IsDigest event.eventHash) :
    ∃ state', reduceV1 world state event = .ok state' ∧ Bare state' s cancellation := by
  obtain ⟨⟨sequence, hash, rfl, -, -⟩, hcancellation⟩ := h
  refine ⟨initialProjection (.str s.name) (Json.ofOption cancellation)
    (Json.nat event.sequence) (.str event.eventHash), ?_,
    ⟨⟨_, _, rfl, hsequence, .inr ⟨_, hhash, rfl⟩⟩, hcancellation⟩⟩
  rw [reduceV1, typedReceipt_of_none htyped]
  rcases htype with htype | htype | htype <;> simp only [reduceEvent, htype, ok_bind] <;> rfl

theorem reduce_cancellation (h : Bare state s cancellation)
    (htype : event.eventType = .cancellationRequested)
    (htyped : event.payload.get? "typed_receipt" = none)
    (hsequence : event.sequence < 10 ^ 6) (hhash : IsDigest event.eventHash) :
    ∃ state', reduceV1 world state event = .ok state' ∧
      Bare state' s (some "requested") := by
  obtain ⟨⟨sequence, hash, rfl, -, -⟩, -⟩ := h
  refine ⟨initialProjection (.str s.name) (.str "requested")
    (Json.nat event.sequence) (.str event.eventHash), ?_,
    ⟨⟨_, _, rfl, hsequence, .inr ⟨_, hhash, rfl⟩⟩, .inr rfl⟩⟩
  rw [reduceV1, typedReceipt_of_none htyped]
  simp only [reduceEvent, htype, ok_bind]
  rfl

theorem reduce_transition {source target : State} (h : Bare state s cancellation)
    (htype : event.eventType = .transition)
    (hpayload : event.payload = transitionPayload source.name target.name)
    (hpromoted : target ≠ .promoted)
    (hsequence : event.sequence < 10 ^ 6) (hhash : IsDigest event.eventHash) :
    ∃ state', reduceV1 world state event = .ok state' ∧
      Bare state' target cancellation := by
  obtain ⟨⟨sequence, hash, rfl, -, -⟩, hcancellation⟩ := h
  have hlink : isText (event.payload.get? "to_state") "promoted" = false := by
    rw [hpayload]
    cases target <;> first | rfl | exact absurd rfl hpromoted
  refine ⟨initialProjection (.str target.name) (Json.ofOption cancellation)
    (Json.nat event.sequence) (.str event.eventHash), ?_,
    ⟨⟨_, _, rfl, hsequence, .inr ⟨_, hhash, rfl⟩⟩, hcancellation⟩⟩
  rw [reduceV1]
  simp only [reduceEvent, htype, reduceTransition, linkPromotion, hlink, Bool.false_eq_true,
    false_and, if_false]
  rw [hpayload]
  rfl

/-! ## Stages of a run -/

def SameIdentity (row row' : InstanceRow) : Prop :=
  row' = { row with
    currentSequence := row'.currentSequence
    currentEventHash := row'.currentEventHash
    currentState := row'.currentState
    terminal := row'.terminal
    eventCount := row'.eventCount
    canonicalEventBytes := row'.canonicalEventBytes
    nextDurableDeadline := row'.nextDurableDeadline
    cancellationState := row'.cancellationState }

theorem sameIdentity_trans {row row' row'' : InstanceRow} (h : SameIdentity row row')
    (h' : SameIdentity row' row'') : SameIdentity row row'' := by
  unfold SameIdentity at *
  rw [h'] at ⊢
  rw [h]

theorem sameIdentity_appendedRow (row : InstanceRow) (append : Append) (event : EventRow)
    (deadline : Option Timestamp) :
    SameIdentity row (appendedRow row append event deadline) := rfl

/-- A reachable ledger whose only workflow is the test execution, with `n` events. -/
structure Stage (n : Nat) (used : EventRow → Prop) (row : InstanceRow) (state : Dict)
    (L : Ledger) : Prop where
  reachable : Reachable testWorld L
  solo : Solo row n used state L
  bare : Bare state row.currentState row.cancellationState
  identity : ∃ identityHash, SameIdentity (openedRow .execution identityHash) row

def inputAt (n : Nat) (key : String) (actor : Dict) : AppendInput where
  workflowId := "workflow:test"
  expectedSequence := n
  idempotencyKey := key
  actor := actor

/-- An append of a run: small, without a terminal receipt and without an end. -/
structure Modest (n : Nat) (used : EventRow → Prop) (key : String) (actor : Dict)
    (append : Append) (bound : Bindings) : Prop where
  actorValid : eventActor.valid (.obj actor) = true
  actorSize : size canonical (.obj actor) ≤ 100 ∧ size jsonbStyle (.obj actor) ≤ 4096
  contractual : append.eventType ≠ .outcomeEvaluationIntentCreated ∧
    append.eventType ≠ .iterationEnrollmentAccepted
  payloadSize : size canonical (.obj append.payload) ≤ 4800 ∧
    size jsonbStyle (.obj append.payload) ≤ 16384
  receipt : pathText append.payload ["typed_receipt", "receipt_type"] ≠
    some "execution_terminal_receipt"
  terminal : append.terminal.getD false = false
  fresh : ∀ e, used e → e.idempotencyKey ≠ key
  timer : bindText append.timerId = .ok bound.timerId
  message : bindText append.externalMessageId = .ok bound.externalMessageId
  deadline : bindTimestamp testWorld append.nextDurableDeadline = .ok bound.deadline
  freshTimer : ∀ id, bound.timerId = some id → ∀ e, used e → e.timerId ≠ some id
  freshMessage : ∀ id, bound.externalMessageId = some id →
    ∀ e, used e → e.externalMessageId ≠ some id

variable {n : Nat} {used : EventRow → Prop} {row : InstanceRow} {L : Ledger}

theorem workflowId_of_stage (h : Stage n used row state L) :
    row.workflowId = "workflow:test" := by
  obtain ⟨_, hidentity⟩ := h.identity
  rw [hidentity]
  rfl

theorem kind_of_stage (h : Stage n used row state L) : row.workflowKind = .execution := by
  obtain ⟨_, hidentity⟩ := h.identity
  rw [hidentity]
  rfl

structure Committed (n : Nat) (used : EventRow → Prop) (row : InstanceRow) (state : Dict)
    (key : String) (actor : Dict) (append : Append) (bound : Bindings) (event : EventRow)
    (row' : InstanceRow) (state' : Dict) (L L' : Ledger) : Prop where
  grown : Grown testWorld row n used state key actor append bound event state' L L'
  row : row' = appendedRow row append event bound.deadline
  reachable : Reachable testWorld L'
  solo : Solo row' (n + 1) (fun e => used e ∨ e = event) state' L'

theorem suits_of_modest {key : String} {actor : Dict} {append : Append} {bound : Bindings}
    {Q : Dict → Prop} (L : Ledger) (hmodest : Modest n used key actor append bound)
    (hreduced : ∀ e : EventRow, e.eventType = append.eventType →
      e.payload = append.payload → e.sequence = n + 1 → IsDigest e.eventHash →
      ∃ state', reduceV1 testWorld state e = .ok state' ∧ Q state' ∧
        size canonical (.obj state') ≤ 16384 ∧ size jsonbStyle (.obj state') ≤ 16384) :
    Suits testWorld n used state key actor append bound L := by
  have hreceipts : ∀ e : EventRow, e.eventType = append.eventType →
      e.payload = append.payload → terminalReceiptId e = none ∧
        enrollmentTerminalReceiptId e = none := by
    intro e htype hpayload
    constructor
    · simp [terminalReceiptId, hpayload, hmodest.receipt]
    · simp [enrollmentTerminalReceiptId, htype, hmodest.contractual.2]
  constructor
  case freshReceipts =>
    intro e htype hpayload
    obtain ⟨hterminal, henrollment⟩ := hreceipts e htype hpayload
    exact ⟨partialKey_of_none hterminal, partialKey_of_none henrollment⟩
  case reduced =>
    intro e htype hpayload hsequence hhash
    obtain ⟨state', hreduce, -, hsizes⟩ := hreduced e htype hpayload hsequence hhash
    exact ⟨state', hreduce, hsizes⟩
  case contractual => exact hmodest.contractual.1
  case actorValid => exact hmodest.actorValid
  case actorSize => exact hmodest.actorSize
  case payloadSize => exact hmodest.payloadSize
  case fresh => exact hmodest.fresh
  case timer => exact hmodest.timer
  case message => exact hmodest.message
  case deadline => exact hmodest.deadline
  case freshTimer => exact hmodest.freshTimer
  case freshMessage => exact hmodest.freshMessage

theorem kept_of_grown {key : String} {actor : Dict} {append : Append} {bound : Bindings}
    {event : EventRow} {state' : Dict} {L' : Ledger} {Q : Dict → Prop}
    (hgrown : Grown testWorld row n used state key actor append bound event state' L L')
    (hcurrent : row.currentSequence = n)
    (hreduced : ∀ e : EventRow, e.eventType = append.eventType →
      e.payload = append.payload → e.sequence = n + 1 → IsDigest e.eventHash →
      ∃ state', reduceV1 testWorld state e = .ok state' ∧ Q state' ∧
        size canonical (.obj state') ≤ 16384 ∧ size jsonbStyle (.obj state') ≤ 16384) :
    Q state' := by
  have hown := hgrown.appended.own
  have hsequence : event.sequence = n + 1 := by
    rw [hown.isSealed.sequence, hcurrent]
  obtain ⟨state'', hreduce, hQ, -⟩ :=
    hreduced event hown.eventType hown.payload hsequence hgrown.eventHash
  cases hgrown.reduced.symm.trans hreduce
  exact hQ

theorem committed_of_modest {operation : Operation} {key : String} {actor : Dict}
    {append : Append} {bound : Bindings} {Q : Dict → Prop} (hreach : Reachable testWorld L)
    (hsolo : Solo row n used state L) (hn : n < 9999)
    (hworkflow : row.workflowId = "workflow:test")
    (hprecheck : (operation.seam testWorld testFacade (inputAt n key actor)).precheck L =
      .ok ())
    (hkind : (operation.seam testWorld testFacade (inputAt n key actor)).kindCheck row =
      .ok ())
    (hplan : (operation.seam testWorld testFacade (inputAt n key actor)).plan L row =
      .ok append)
    (hafter : ∀ M, (operation.seam testWorld testFacade (inputAt n key actor)).after M =
      .ok M)
    (hmodest : Modest n used key actor append bound)
    (hreduced : ∀ e : EventRow, e.eventType = append.eventType →
      e.payload = append.payload → e.sequence = n + 1 → IsDigest e.eventHash →
      ∃ state', reduceV1 testWorld state e = .ok state' ∧ Q state' ∧
        size canonical (.obj state') ≤ 16384 ∧ size jsonbStyle (.obj state') ≤ 16384) :
    ∃ event row' state' L',
      exec testWorld (context n) (.append (inputAt n key actor) operation) L =
        .ok (.event event, L') ∧
      Committed n used row state key actor append bound event row' state' L L' ∧
      Q state' := by
  have hsuits := suits_of_modest L hmodest hreduced
  obtain ⟨event, state', L', hgrown, hexec⟩ := exec_append_of_suits testFacade operation
    (inputAt n key actor) hsolo hn hworkflow.symm rfl hprecheck hkind hplan hsuits
  have hcommit := hexec L' (hafter L')
  refine ⟨event, _, state', L', hcommit,
    ⟨hgrown, rfl, run_of_exec hreach hcommit, hgrown.solo hmodest.terminal⟩, ?_⟩
  exact kept_of_grown hgrown hsolo.currentSequence hreduced

structure Stepped (n : Nat) (used : EventRow → Prop) (row : InstanceRow) (state : Dict)
    (key : String) (actor : Dict) (append : Append) (bound : Bindings) (event : EventRow)
    (row' : InstanceRow) (state' : Dict) (L L' : Ledger) : Prop where
  grown : Grown testWorld row n used state key actor append bound event state' L L'
  row : row' = appendedRow row append event bound.deadline
  stage : Stage (n + 1) (fun e => used e ∨ e = event) row' state' L'

theorem step_of_modest {operation : Operation} {key : String} {actor : Dict}
    {append : Append} {bound : Bindings} (h : Stage n used row state L) (hn : n < 9999)
    (hprecheck : (operation.seam testWorld testFacade (inputAt n key actor)).precheck L =
      .ok ())
    (hkind : (operation.seam testWorld testFacade (inputAt n key actor)).kindCheck row =
      .ok ())
    (hplan : (operation.seam testWorld testFacade (inputAt n key actor)).plan L row =
      .ok append)
    (hafter : ∀ M, (operation.seam testWorld testFacade (inputAt n key actor)).after M =
      .ok M)
    (hmodest : Modest n used key actor append bound)
    (hreduced : ∀ e : EventRow, e.eventType = append.eventType →
      e.payload = append.payload → e.sequence < 10 ^ 6 → IsDigest e.eventHash →
      ∃ state', reduceV1 testWorld state e = .ok state' ∧
        Bare state' (append.currentState.getD row.currentState)
          (append.cancellationState.or row.cancellationState)) :
    ∃ event row' state' L',
      exec testWorld (context n) (.append (inputAt n key actor) operation) L =
        .ok (.event event, L') ∧
      Stepped n used row state key actor append bound event row' state' L L' := by
  obtain ⟨event, row', state', L', hexec, hcommitted, hbare⟩ := committed_of_modest
    (Q := fun state' => Bare state' (append.currentState.getD row.currentState)
      (append.cancellationState.or row.cancellationState))
    h.reachable h.solo hn (workflowId_of_stage h) hprecheck hkind hplan hafter hmodest
    (fun e htype hpayload hsequence hhash => by
      obtain ⟨state', hreduce, hbare⟩ := hreduced e htype hpayload (by omega) hhash
      obtain ⟨hcanonical, hjsonb⟩ := size_of_bare hbare
      exact ⟨state', hreduce, hbare, hcanonical.trans (by decide), hjsonb.trans (by decide)⟩)
  obtain ⟨identityHash, hidentity⟩ := h.identity
  refine ⟨event, row', state', L', hexec, hcommitted.grown, hcommitted.row, ?_⟩
  have hrow := hcommitted.row
  subst hrow
  exact
    { reachable := hcommitted.reachable
      solo := hcommitted.solo
      bare := hbare
      identity := ⟨identityHash,
        sameIdentity_trans hidentity (sameIdentity_appendedRow _ _ _ _)⟩ }

/-! ## Steps -/

structure Welcome (actor : Dict) : Prop where
  valid : eventActor.valid (.obj actor) = true
  size : size canonical (.obj actor) ≤ 100 ∧ size jsonbStyle (.obj actor) ≤ 4096

theorem welcome_service : Welcome service :=
  ⟨by decide, by rw [← byteSize_eq, ← byteSize_eq]; decide⟩

def message (id : String) : Dict := [("external_message_id", .str id)]

theorem size_message {id : String} (h : quoteSize id ≤ 250) :
    size canonical (.obj (message id)) ≤ 4800 ∧
      size jsonbStyle (.obj (message id)) ≤ 16384 := by
  have hkey : quoteSize "external_message_id" = 21 := by decide
  have hseparators : canonical.keySeparator.utf8ByteSize = 1 ∧
      jsonbStyle.keySeparator.utf8ByteSize = 2 := by decide
  simp only [message, size, membersSize, memberSize, hkey, hseparators]
  omega

theorem message_step (key id : String) {actor : Dict} (h : Stage n used row state L)
    (hn : n < 9999) (hactor : Welcome actor) (hid : id ≠ "" ∧ quoteSize id ≤ 250)
    (hkey : ∀ e, used e → e.idempotencyKey ≠ key)
    (hfresh : ∀ e, used e → e.externalMessageId ≠ some id) :
    ∃ event row' state' L',
      exec testWorld (context n)
          (.append (inputAt n key actor) (.recordExternalMessage (message id))) L =
        .ok (.event event, L') ∧
      Stepped n used row state key actor
        { eventType := .externalMessageRecorded
          payload := message id
          externalMessageId := some (.str id) }
        { externalMessageId := some id } event row' state' L L' := by
  refine step_of_modest h hn ?_ rfl ?_ (fun _ => rfl) ?_ ?_
  · have hpresent : present (message id) "external_message_id" = true := by
      simp [present, message, Dict.get?_cons, Json.truthy, hid.1]
    exact ensure_of hpresent
  · rfl
  · exact
      { actorValid := hactor.valid
        actorSize := hactor.size
        contractual := ⟨EventType.noConfusion, EventType.noConfusion⟩
        payloadSize := size_message hid.2
        receipt := by rintro ⟨⟩
        terminal := rfl
        fresh := hkey
        timer := rfl
        message := rfl
        deadline := rfl
        freshTimer := by rintro _ ⟨⟩
        freshMessage := by
          rintro _ ⟨⟩
          exact hfresh }
  · intro e htype hpayload hsequence hhash
    exact reduce_recorded h.bare (.inr (.inl htype)) (by rw [hpayload]; rfl) hsequence hhash

def timer (deadline : String) : Dict :=
  [("deadline", .str deadline), ("timer_id", .str "timer:test")]

theorem timer_step (key : String) (h : Stage n used row state L) (hn : n < 9999)
    (hkey : ∀ e, used e → e.idempotencyKey ≠ key)
    (hfresh : ∀ e, used e → e.timerId ≠ some "timer:test") :
    ∃ event row' state' L',
      exec testWorld (context n)
          (.append (inputAt n key service) (.recordTimer (timer moment))) L =
        .ok (.event event, L') ∧
      Stepped n used row state key service
        { eventType := .timerRecorded
          payload := timer moment
          timerId := some (.str "timer:test")
          nextDurableDeadline := some moment }
        { timerId := some "timer:test", deadline := some 1785024000000000 } event row'
        state' L L' := by
  refine step_of_modest h hn ?_ rfl ?_ (fun _ => rfl) ?_ ?_
  · have hpresent : (present (timer moment) "timer_id" &&
        present (timer moment) "deadline") = true := by decide
    have hdeadline : textItem (timer moment) "deadline" = .ok moment := rfl
    have hiso : testWorld.fromisoformat (moment.replace "Z" "+00:00") = true := by
      simp [testWorld]
    change validateTimer testWorld (timer moment) = .ok ()
    rw [validateTimer, ensure_of hpresent, ok_bind, hdeadline, ok_bind]
    exact ensure_of hiso
  · rfl
  · exact
      { actorValid := welcome_service.valid
        actorSize := welcome_service.size
        contractual := ⟨EventType.noConfusion, EventType.noConfusion⟩
        payloadSize := by rw [← byteSize_eq, ← byteSize_eq]; decide
        receipt := by rintro ⟨⟩
        terminal := rfl
        fresh := hkey
        timer := rfl
        message := rfl
        deadline := rfl
        freshTimer := by
          rintro _ ⟨⟩
          exact hfresh
        freshMessage := by rintro _ ⟨⟩ }
  · intro e htype hpayload hsequence hhash
    exact reduce_recorded h.bare (.inl htype) (by rw [hpayload]; rfl) hsequence hhash

def reason : Dict := [("reason", .str "operator request")]

theorem cancellation_step (key : String) (h : Stage n used row state L) (hn : n < 9999)
    (hkey : ∀ e, used e → e.idempotencyKey ≠ key) :
    ∃ event row' state' L',
      exec testWorld (context n)
          (.append (inputAt n key service) (.requestCancellation reason)) L =
        .ok (.event event, L') ∧
      Stepped n used row state key service
        { eventType := .cancellationRequested
          payload := reason
          cancellationState := some "requested" }
        {} event row' state' L L' := by
  refine step_of_modest h hn ?_ rfl ?_ (fun _ => rfl) ?_ ?_
  · have hpresent : present reason "reason" = true := by decide
    change validateCancellation reason = .ok ()
    exact ensure_of hpresent
  · have hopen : require (row.terminal = false)
        (Failure.conflict .terminalCannotBeCancelled) = .ok () :=
      require_of h.solo.nonterminal
    change (require (row.terminal = false) _ >>= _) = _
    rw [hopen]
    rfl
  · exact
      { actorValid := welcome_service.valid
        actorSize := welcome_service.size
        contractual := ⟨EventType.noConfusion, EventType.noConfusion⟩
        payloadSize := by rw [← byteSize_eq, ← byteSize_eq]; decide
        receipt := by rintro ⟨⟩
        terminal := rfl
        fresh := hkey
        timer := rfl
        message := rfl
        deadline := rfl
        freshTimer := by rintro _ ⟨⟩
        freshMessage := by rintro _ ⟨⟩ }
  · intro e htype hpayload hsequence hhash
    exact reduce_cancellation h.bare htype (by rw [hpayload]; rfl) hsequence hhash

/-! ## Runs -/

theorem opened_stage : ∃ row state L,
    Stage 0 (fun _ => False) row state L ∧
      exec testWorld (context 0) (.openWorkflow (identity .execution)) Ledger.empty =
        .ok (.instance row, L) ∧
      row.currentState = .pending ∧ row.cancellationState = none := by
  obtain ⟨identityHash, hopen⟩ := openWorkflowKind_isOk testWorld .execution
  have hkind : isText (Dict.get? (identity .execution) "workflow_kind") "execution" = true :=
    isText_iff.mpr rfl
  have hexecution : openWorkflow testWorld testFacade (identity .execution) Ledger.empty =
      .ok (openedRow .execution identityHash, openedLedger .execution identityHash) := by
    rw [openWorkflow, ensure_of hkind, check_ok, ok_bind]
    exact hopen
  have hexec : exec testWorld (context 0) (.openWorkflow (identity .execution))
      Ledger.empty =
        .ok (.instance (openedRow .execution identityHash),
          openedLedger .execution identityHash) := by
    rw [exec]
    change replying .instance
      (openWorkflow testWorld testFacade (identity .execution) Ledger.empty) = _
    rw [hexecution]
    rfl
  refine ⟨_, _, _, ⟨run_of_exec (.refl _) hexec, solo_opened .execution identityHash, ?_,
    ⟨identityHash, rfl⟩⟩, hexec, rfl, rfl⟩
  exact ⟨⟨0, .null, rfl, by decide, .inl rfl⟩, .inl rfl⟩

/-- The name of the `i`th message of a run, and of its key. -/
def messageName (i : Nat) : String := numbered "message:" i

theorem short_messageName (i : Nat) : Short (messageName i) :=
  short_numbered (by decide) (by decide) i

theorem run_messages {m : Nat} (h : Stage n used row state L)
    (hkeys : ∀ e i, used e → n ≤ i → i < m → e.idempotencyKey ≠ messageName i)
    (hids : ∀ e i, used e → n ≤ i → i < m → e.externalMessageId ≠ some (messageName i))
    (hle : n ≤ m) (hm : m ≤ 9999) :
    ∃ used' row' state' L', Stage m used' row' state' L' ∧ Run testWorld L L' ∧
      row'.currentState = row.currentState ∧
      row'.cancellationState = row.cancellationState ∧
      (n < m → row'.nextDurableDeadline = none) ∧
      ∀ e, used' e → used e ∨ ∃ i, n ≤ i ∧ i < m ∧ e.idempotencyKey = messageName i ∧
        e.externalMessageId = some (messageName i) ∧
        e.eventType = .externalMessageRecorded := by
  induction m, hle using Nat.le_induction with
  | base =>
      exact ⟨used, row, state, L, h, .refl _, rfl, rfl, fun hlt => absurd hlt (by omega),
        fun e he => .inl he⟩
  | succ m hle ih =>
      obtain ⟨used', row', state', L', hstage, hrun, hstate, hcancellation, -, hused⟩ :=
        ih (fun e i he hi him => hkeys e i he hi (by omega))
          (fun e i he hi him => hids e i he hi (by omega)) (by omega)
      have hname : ∀ i, i < m → messageName i ≠ messageName m := fun i hi heq =>
        absurd (numbered_injective (by omega) (by omega) heq) (by omega)
      have hkey : ∀ e, used' e → e.idempotencyKey ≠ messageName m := by
        intro e he
        rcases hused e he with hold | ⟨i, -, hi, hkey, -, -⟩
        · exact hkeys e m hold hle (by omega)
        · rw [hkey]
          exact hname i hi
      have hid : ∀ e, used' e → e.externalMessageId ≠ some (messageName m) := by
        intro e he
        rcases hused e he with hold | ⟨i, -, hi, -, hid, -⟩
        · exact hids e m hold hle (by omega)
        · rw [hid]
          exact fun heq => hname i hi (Option.some.inj heq)
      have hnonempty : messageName m ≠ "" := fun heq => by
        have hlength := (short_messageName m).1
        rw [heq] at hlength
        exact absurd hlength (by decide)
      obtain ⟨event, row'', state'', L'', hexec, hstep⟩ := message_step _ _ hstage
        (by omega) welcome_service ⟨hnonempty, (short_messageName m).2.2⟩ hkey hid
      refine ⟨_, row'', state'', L'', hstep.stage, run_of_exec hrun hexec, ?_, ?_, ?_, ?_⟩
      · rw [hstep.row, ← hstate]
        rfl
      · rw [hstep.row, ← hcancellation]
        rfl
      · rw [hstep.row]
        exact fun _ => rfl
      · rintro e (he | rfl)
        · rcases hused e he with hold | ⟨i, hi, him, hnames⟩
          · exact .inl hold
          · exact .inr ⟨i, hi, by omega, hnames⟩
        · have hown := hstep.grown.appended.own
          exact .inr ⟨m, hle, by omega, hown.idempotencyKey, hstep.grown.externalMessageId,
            hown.eventType⟩

theorem messageName_ne {s : String} (h : s.toList.head? ≠ some 'm') (i : Nat) :
    messageName i ≠ s := by
  rintro rfl
  exact h (by simp [messageName, numbered])

theorem message_stage {m : Nat} (hm : m ≤ 9999) : ∃ used row state L,
    Stage m used row state L ∧ row.currentState = .pending ∧ row.cancellationState = none ∧
      ∀ e, used e → (∃ i, e.idempotencyKey = messageName i) ∧
        e.eventType = .externalMessageRecorded := by
  obtain ⟨row, state, L, hstage, -, hstate, hcancellation⟩ := opened_stage
  obtain ⟨used, row', state', L', hstage', -, hstate', hcancellation', -, hused⟩ :=
    run_messages hstage (fun _ _ h => h.elim) (fun _ _ h => h.elim) (Nat.zero_le m) hm
  refine ⟨used, row', state', L', hstage', hstate'.trans hstate,
    hcancellation'.trans hcancellation, fun e he => ?_⟩
  rcases hused e he with hnone | ⟨i, -, -, hkey, -, htype⟩
  · exact hnone.elim
  · exact ⟨⟨i, hkey⟩, htype⟩

theorem one_message : ∃ event row state L,
    Stage 1 (fun e => False ∨ e = event) row state L ∧ L.events = [event] ∧
      event.eventType = .externalMessageRecorded ∧ row.currentState = .pending ∧
      row.cancellationState = none ∧ ∀ p : Ledger → Context → Call → Prop,
        p Ledger.empty (context 0) (.openWorkflow (identity .execution)) →
        (∀ M, p M (context 0) (.append (inputAt 0 "key:test" service)
          (.recordExternalMessage (message "message:test")))) →
        RunWhere testWorld p Ledger.empty L := by
  obtain ⟨row, state, L, hstage, hopen, hstate, hcancellation⟩ := opened_stage
  obtain ⟨event, row', state', L', hexec, hstep⟩ := message_step "key:test"
    "message:test" hstage (by decide) welcome_service (by decide) (by rintro _ ⟨⟩)
    (by rintro _ ⟨⟩)
  have hempty : L.events = [] :=
    List.eq_nil_iff_forall_not_mem.mpr fun e he => (hstage.solo.events e he).1
  refine ⟨event, row', state', L', hstep.stage, ?_, hstep.grown.appended.own.eventType, ?_, ?_,
    fun p hpopen hpmessage => ?_⟩
  · rw [hstep.grown.events, hempty]
    rfl
  · rw [hstep.row]
    exact hstate
  · rw [hstep.row]
    exact hcancellation
  · exact runWhere_of_exec (runWhere_of_exec (.refl _) hpopen hopen) (hpmessage L) hexec

end MindscapeLocalCore.DurableState.ExecutionRuns
