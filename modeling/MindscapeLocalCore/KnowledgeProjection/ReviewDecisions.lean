import MindscapeLocalCore.KnowledgeProjection.SynthesisRuns

/-!
The decision of a review that returned is the one in force: repeats of earlier commands and
calls that come too late change nothing that they should have changed.
-/

namespace MindscapeLocalCore.KnowledgeProjection.ReviewDecisions

open Library Library.Json GroupSynthesis SynthesisStore SynthesisRuns

variable (runtime : Runtime)

def statusOf (s : Store) (receiptId : String) : Option ReceiptStatus :=
  (Table.lookup Receipt.id receiptId s.receipts).map Receipt.status

def commands (events : List Event) : List ReviewCommand :=
  events.filterMap fun
    | .decide command _ => some command
    | .commit _ => none

def HashesDiffer (commands : List ReviewCommand) : Prop :=
  ∀ a ∈ commands, ∀ b ∈ commands,
    hashJson runtime a.document = hashJson runtime b.document → a.document = b.document

/-- A call that returns leaves its receipt with the status of its decision, unless the receipt
was approved or rejected before. -/
def InForce (s : Store) (command : ReviewCommand) (allowed : Bool) : Prop :=
  ∀ s' review created, serviceDecide runtime s command allowed = some (s', review, created) →
    ∃ status, statusOf s command.synthesisReceiptId = some status ∧
      statusOf s' command.synthesisReceiptId =
        some (if status.Terminal then status else command.decision.target)

/-- Items that only one receipt lists are active exactly when it is approved and archived
exactly when it is rejected. -/
def ItemsStand (s : Store) (receipt : Receipt) : Prop :=
  ∀ item ∈ s.items, item.id ∈ receipt.candidateMemoryIds → OnlyIn s receipt.id item.id →
    (item.lifecycleStatus = "active" ∧ item.verificationStatus = "verified" ↔
      receipt.status = .approved) ∧
    (item.lifecycleStatus = "archived" ∧ item.verificationStatus = "rejected" ↔
      receipt.status = .rejected)

variable {runtime} {s s' : Store} {command : ReviewCommand}

theorem itemsStand_of_agrees {receipt : Receipt} {item : MemoryItem} (h : Agrees receipt item) :
    (item.lifecycleStatus = "active" ∧ item.verificationStatus = "verified" ↔
      receipt.status = .approved) ∧
    (item.lifecycleStatus = "archived" ∧ item.verificationStatus = "rejected" ↔
      receipt.status = .rejected) := by
  obtain ⟨hlifecycle, hverification⟩ := Prod.mk.inj h.status
  rw [hlifecycle, hverification]
  cases receipt.status with
  | candidate => decide
  | approved => decide
  | changesRequested => decide
  | rejected => decide

theorem text_injective {a b : Decision} (h : a.text = b.text) : a = b := by
  cases a <;> cases b <;> first | rfl | exact absurd h (by decide)

theorem decision_eq_of_document {a b : ReviewCommand} (h : a.document = b.document) :
    a.decision = b.decision := by
  simp only [ReviewCommand.document, Json.obj.injEq, List.cons.injEq, Prod.mk.injEq,
    Json.str.injEq, true_and, and_true] at h
  exact text_injective h.2.1

variable (runtime) in
/-- The reviews are those of the commands, and where a receipt is open they asked for changes. -/
def Reviewed (s : Store) (commands : List ReviewCommand) : Prop :=
  ∀ review ∈ s.reviews, ∃ command ∈ commands, review = reviewRow runtime command ∧
    ∃ receipt ∈ s.receipts, receipt.id = command.synthesisReceiptId ∧
      (receipt.status.Terminal ∨
        receipt.status = .changesRequested ∧ command.decision = .requestChanges)

theorem terminal_or_of_target (decision : Decision) :
    decision.target.Terminal ∨ decision.target = .changesRequested ∧ decision = .requestChanges := by
  cases decision with
  | approve => exact .inl (.inl rfl)
  | requestChanges => exact .inr ⟨rfl, rfl⟩
  | reject => exact .inl (.inr rfl)

theorem reviewed_decided {synthesis : Receipt} {earlier : List ReviewCommand} (hs : Sound s)
    (hreviewed : Reviewed runtime s earlier)
    (hfound : Table.lookup Receipt.id command.synthesisReceiptId s.receipts = some synthesis)
    (hopen : ¬ synthesis.status.Terminal) (h : Decided runtime s s' synthesis command) :
    Reviewed runtime s' (earlier ++ [command]) := by
  have hsynthesis : synthesis ∈ s.receipts := Table.mem_of_lookup hfound
  intro review hreview
  rw [h.reviews] at hreview
  rcases List.mem_append.mp hreview with hreview | hreview
  · obtain ⟨first, hfirst, hrow, receipt, hreceipt, hid, hstatus⟩ := hreviewed review hreview
    refine ⟨first, List.mem_append_left _ hfirst, hrow, _,
      (mem_receipts_of_decided h).mpr ⟨receipt, hreceipt, rfl⟩, ?_⟩
    by_cases hmine : receipt.id = synthesis.id
    · obtain rfl : receipt = synthesis :=
        List.inj_on_of_nodup_map hs.receiptIds hreceipt hsynthesis hmine
      rw [if_pos rfl]
      refine ⟨hid, ?_⟩
      have hchanges := (hstatus.resolve_left hopen).2
      rcases terminal_or_of_target command.decision with hterminal | ⟨htarget, -⟩
      · exact .inl hterminal
      · exact .inr ⟨htarget, hchanges⟩
    · rw [if_neg hmine]
      exact ⟨hid, hstatus⟩
  · refine ⟨command, List.mem_append_right _ (List.mem_singleton_self _),
      List.mem_singleton.mp hreview, _,
      (mem_receipts_of_decided h).mpr ⟨synthesis, hsynthesis, rfl⟩, ?_⟩
    have hid : synthesis.id = command.synthesisReceiptId := Table.key_of_lookup hfound
    rw [if_pos rfl]
    exact ⟨hid, terminal_or_of_target command.decision⟩

theorem reviewed_next {event : Event} {earlier : List ReviewCommand} (hs : Sound s)
    (hreviewed : Reviewed runtime s earlier) (h : Wrote runtime s s' event) :
    Reviewed runtime s' (earlier ++ commands [event]) := by
  have hmore : Reviewed runtime s (earlier ++ commands [event]) := by
    intro review hreview
    obtain ⟨command, hcommand, hrest⟩ := hreviewed review hreview
    exact ⟨command, List.mem_append_left _ hcommand, hrest⟩
  cases h with
  | nothing manifests h =>
      rw [h]
      exact hmore
  | created h =>
      intro review hreview
      rw [h.reviews] at hreview
      obtain ⟨command, hcommand, hrow, receipt, hreceipt, hrest⟩ := hmore review hreview
      refine ⟨command, hcommand, hrow, receipt, ?_, hrest⟩
      rw [h.receipts]
      exact List.mem_append_left _ hreceipt
  | decided hfound hopen _ h => exact reviewed_decided hs hreviewed hfound hopen h

theorem reviewed_run {start : Store} (hinitial : Initial start) (events : List Event) :
    Reviewed runtime (run runtime start events) (commands events) := by
  induction events using List.reverseRecOn with
  | nil =>
      intro review hreview
      rw [show (run runtime start []).reviews = [] from hinitial.reviews] at hreview
      cases hreview
  | append_singleton events event ih =>
      rw [run, Trace.stateAfter_append_singleton, commands, List.filterMap_append]
      exact reviewed_next (sound_run hinitial events) ih (wrote_next _ event)

/-! ### Statuses -/

theorem statusOf_decided {synthesis : Receipt}
    (hfound : Table.lookup Receipt.id command.synthesisReceiptId s.receipts = some synthesis)
    (h : Decided runtime s s' synthesis command) (id : String) :
    statusOf s' id = if id = command.synthesisReceiptId then some command.decision.target
      else statusOf s id := by
  have hid : synthesis.id = command.synthesisReceiptId := Table.key_of_lookup hfound
  have hkeep : ∀ receipt : Receipt, receipt.id = synthesis.id →
      (withStatus command.decision.target receipt).id = synthesis.id := fun _ hid => hid
  rw [statusOf, h.receipts, Table.lookup_amend _ hkeep, hid]
  split
  · rw [hfound]
    rfl
  · rfl

theorem statusOf_terminal_next {event : Event} {id : String} {status : ReceiptStatus}
    (hstatus : statusOf s id = some status) (hterminal : status.Terminal)
    (h : Wrote runtime s s' event) : statusOf s' id = some status := by
  cases h with
  | nothing manifests h =>
      rw [h]
      exact hstatus
  | created h =>
      obtain ⟨receipt, hreceipt, hsame⟩ := Option.map_eq_some_iff.mp hstatus
      rw [statusOf, h.receipts, Table.lookup_append_singleton, hreceipt, Option.some_or]
      exact congrArg some hsame
  | decided hfound hopen _ h =>
      rw [statusOf_decided hfound h, if_neg]
      · exact hstatus
      · rintro rfl
        rw [statusOf, hfound] at hstatus
        obtain rfl := Option.some.inj hstatus
        exact hopen hterminal

theorem statusOf_terminal_run {id : String} {status : ReceiptStatus}
    (hstatus : statusOf s id = some status) (hterminal : status.Terminal) (later : List Event) :
    statusOf (run runtime s later) id = some status := by
  induction later using List.reverseRecOn with
  | nil => exact hstatus
  | append_singleton later event ih =>
      rw [run, Trace.stateAfter_append_singleton]
      exact statusOf_terminal_next ih hterminal (wrote_next _ event)

theorem inForce_of_reviewed {earlier : List ReviewCommand} {allowed : Bool} (hs : Sound s)
    (hreviewed : Reviewed runtime s earlier)
    (hdiffer : HashesDiffer runtime (earlier ++ [command])) :
    InForce runtime s command allowed := by
  intro s' review created hreturned
  rw [serviceDecide] at hreturned
  split at hreturned
  · obtain ⟨synthesis, hfound, hcase⟩ := decide_cases hreturned
    refine ⟨synthesis.status, by rw [statusOf, hfound]; rfl, ?_⟩
    rcases hcase with ⟨hreview, rfl, -⟩ | ⟨hopen, -, hdecided⟩
    · -- the call repeats a command that was recorded before
      have hmem : review ∈ s'.reviews := List.mem_of_find?_eq_some hreview
      obtain ⟨first, hfirst, hrow, receipt, hreceipt, hid, hstatus⟩ := hreviewed review hmem
      rw [findReview] at hreview
      have hfind := List.find?_some hreview
      have hsame : review.synthesisReceiptId = command.synthesisReceiptId ∧
          review.decisionHash = decisionHash runtime command := of_decide_eq_true hfind
      rw [hrow] at hsame
      have hdecision : first.decision = command.decision :=
        decision_eq_of_document (hdiffer first (List.mem_append_left _ hfirst) command
          (List.mem_append_right _ (List.mem_singleton_self _)) hsame.2)
      obtain rfl : receipt = synthesis :=
        List.inj_on_of_nodup_map hs.receiptIds hreceipt (Table.mem_of_lookup hfound)
          ((hid.trans hsame.1).trans (Table.key_of_lookup hfound).symm)
      rw [statusOf, hfound]
      split
      · rfl
      · rename_i hopen
        obtain ⟨hchanged, hchanges⟩ := hstatus.resolve_left hopen
        rw [← hdecision, hchanges]
        exact congrArg some hchanged
    · rw [statusOf_decided hfound hdecided, if_pos rfl, if_neg hopen]
  · cases hreturned

/-- In a run of commits and reviews, a decision that returns is in force unless it came after
an approval or a rejection, which never change; and the items of a receipt stand as it does. -/
theorem decision_in_force (runtime : Runtime) {start : Store} (hinitial : Initial start)
    (events : List Event) (command : ReviewCommand) (allowed : Bool)
    (hdiffer : HashesDiffer runtime (commands events ++ [command])) :
    InForce runtime (run runtime start events) command allowed ∧
      (∀ id status, statusOf (run runtime start events) id = some status → status.Terminal →
        ∀ later, statusOf (run runtime start (events ++ later)) id = some status) ∧
      ∀ receipt ∈ (run runtime start events).receipts,
        (∀ id ∈ receipt.candidateMemoryIds,
          ∃ item ∈ (run runtime start events).items, item.id = id) ∧
        ItemsStand (run runtime start events) receipt := by
  have hs : Sound (run runtime start events) := sound_run hinitial events
  refine ⟨inForce_of_reviewed hs (reviewed_run hinitial events) hdiffer, ?_, ?_⟩
  · intro id status hstatus hterminal later
    rw [run, Trace.stateAfter_append]
    exact statusOf_terminal_run hstatus hterminal later
  · intro receipt hreceipt
    refine ⟨hs.present receipt hreceipt, fun item hitem hid honly => ?_⟩
    exact itemsStand_of_agrees (hs.agrees receipt hreceipt item hitem hid honly)

/-- A request for changes that is made twice returns the second time, and is in force. -/
theorem repeated_decision_in_force :
    (serviceDecide sampleRuntime (run sampleRuntime sampleStart [.commit (sampleHandoff "1"),
        .decide (sampleCommand "1" .requestChanges) true])
      (sampleCommand "1" .requestChanges) true).isSome = true ∧
    InForce sampleRuntime (run sampleRuntime sampleStart [.commit (sampleHandoff "1"),
        .decide (sampleCommand "1" .requestChanges) true])
      (sampleCommand "1" .requestChanges) true := by
  constructor
  · rw [run, Trace.stateAfter_cons, next, plan_sampleHandoff, sampleCommand, samplePlan_one,
      sampleRuntime_eq]
    decide +kernel
  · refine (decision_in_force sampleRuntime initial_sampleStart _ _ true fun a ha b hb _ => ?_).1
    obtain rfl : a = sampleCommand "1" .requestChanges := by
      rcases List.mem_append.mp ha with ha | ha
      · exact List.mem_singleton.mp ha
      · exact List.mem_singleton.mp ha
    obtain rfl : b = sampleCommand "1" .requestChanges := by
      rcases List.mem_append.mp hb with hb | hb
      · exact List.mem_singleton.mp hb
      · exact List.mem_singleton.mp hb
    rfl

end MindscapeLocalCore.KnowledgeProjection.ReviewDecisions
