import MindscapeLocalCore.RuntimeDatabaseIncident.Closure
/-!
The snapshot of an incident against the events of its file. The state is the one that
the last event of the file led to; a closed incident stands on the events of its own
life, as long as no incident takes the file of an earlier one.
-/

namespace MindscapeLocalCore.RuntimeDatabaseIncident.Coherence

open Library.Guarded Library.PythonText Library.Trace Receipts ClosureReceipts Incident
open ClosurePolicy Journal Steps Closure

def state? : EventKind → Option IncidentState
  | .incidentOpened .. | .failureObserved .. | .containmentReopenedForAttribution .. =>
      some .openUnattributed
  | .incidentContained _ => some .containedPendingSoak
  | .incidentClosed _ => some .closed
  | _ => none

def isOpened : EventKind → Bool
  | .incidentOpened .. => true
  | _ => false

def isFailure : EventKind → Bool
  | .failureObserved .. => true
  | _ => false

def loggedState (events : List JournalEvent) : Option IncidentState :=
  (events.filterMap fun event => state? event.kind).getLast?

def ownLife (events : List JournalEvent) : List JournalEvent :=
  (events.reverse.takeWhile fun event => !isOpened event.kind).reverse

variable (p : Platform)

def StandsOn (events : List JournalEvent) : ClosePayload → Prop
  | .attributable receipt =>
      (events.filter (liveTrigger p receipt.deepTriggerEventSha256)).length = 1
  | .residual receipt =>
      ∃ exhaustionAt exhaustion contained,
        exhaustions events =
            [(exhaustionAt, receipt.attributionExhaustionSha256, exhaustion)] ∧
          (∃ containment, contained ∈ containments containment events) ∧
            exhaustionAt ≤ contained

structure Coherent (current : IncidentReceipt) (events : List JournalEvent) : Prop where
  containment : current.containmentReceipt.isSome = true ↔
    current.state = .containedPendingSoak
  diagnostic : current.diagnosticPermit.isSome = true → current.state = .openUnattributed
  close : current.closeReceipt.isSome = true ↔ current.state = .closed
  failures : current.state = .containedPendingSoak → ∀ before contained after,
    events = before ++ contained :: after → contained.kind.contained?.isSome = true →
      (∀ event ∈ after, event.kind.contained? = none) →
        ∀ event ∈ after, isFailure event.kind = false
  closed : current.state = .closed → ∃ payload before recordedAt after,
    current.closeReceipt = some payload ∧
      ownLife events = before ++ ⟨recordedAt, .incidentClosed payload⟩ :: after ∧
        loggedState before = some .containedPendingSoak ∧ StandsOn p before payload

variable {p} {clock : Clock} {journal journal' : Journal}
  {current updated : IncidentReceipt} {operation : Operation} {kinds : List EventKind}
  {events : List JournalEvent}

/-! ### Events -/

theorem loggedState_append (left right : List JournalEvent) :
    loggedState (left ++ right) = (loggedState right).or (loggedState left) := by
  simp [loggedState, List.getLast?_append]

theorem loggedState_stamped (recordedAt : ℤ) (kinds : List EventKind) :
    loggedState (kinds.map fun kind => ⟨recordedAt, kind⟩) =
      (kinds.filterMap state?).getLast? := by
  unfold loggedState
  rw [List.filterMap_map]
  rfl

theorem contained_of_state {kind : EventKind} (h : state? kind = some .containedPendingSoak) :
    kind.contained?.isSome = true := by
  cases kind <;> first | rfl | exact absurd h (by simp [state?])

theorem state_of_failure {kind : EventKind} (h : isFailure kind = true) :
    state? kind = some .openUnattributed := by
  cases kind <;> first | rfl | exact absurd h (by simp [isFailure])

theorem no_failure_after {before after : List JournalEvent} {contained : JournalEvent}
    (h : loggedState (before ++ contained :: after) = some .containedPendingSoak)
    (hlast : ∀ event ∈ after, event.kind.contained? = none) :
    ∀ event ∈ after, isFailure event.kind = false := by
  intro event hmem
  by_contra hfailure
  have hstate := state_of_failure (Bool.eq_true_of_not_eq_false hfailure)
  have hmember : .openUnattributed ∈ after.filterMap fun event => state? event.kind :=
    List.mem_filterMap.mpr ⟨event, hmem, hstate⟩
  have hstates := List.ne_nil_of_mem hmember
  have hsplit : before ++ contained :: after = (before ++ [contained]) ++ after := by simp
  rw [hsplit, loggedState_append] at h
  unfold loggedState at h
  rw [List.getLast?_eq_getLast_of_ne_nil hstates, Option.some_or] at h
  have hlastMem := List.getLast_mem hstates
  rw [Option.some.inj h] at hlastMem
  obtain ⟨found, hfound, hcontained⟩ := List.mem_filterMap.mp hlastMem
  have hsome := contained_of_state hcontained
  rw [hlast found hfound] at hsome
  exact absurd hsome (by simp)

theorem ownLife_cons {first : JournalEvent} {rest : List JournalEvent}
    (hfirst : isOpened first.kind = true)
    (hrest : ∀ event ∈ rest, isOpened event.kind = false) :
    ownLife (first :: rest) = rest := by
  unfold ownLife
  rw [List.reverse_cons, List.takeWhile_append_of_pos]
  · simp [hfirst]
  · intro event hmem
    simp [hrest event (List.mem_reverse.mp hmem)]

/-! ### One change -/

structure Projected (current : IncidentReceipt) : Prop where
  containment : current.containmentReceipt.isSome = true ↔
    current.state = .containedPendingSoak
  diagnostic : current.diagnosticPermit.isSome = true → current.state = .openUnattributed
  close : current.closeReceipt.isSome = true ↔ current.state = .closed

theorem projected_of_change (h : Projected current)
    (hchange : Change p clock events current operation updated kinds) :
    Projected updated := by
  obtain ⟨hcontainment, hdiagnostic, hclose⟩ := h
  cases hchange with
  | failed hstate =>
      refine ⟨by simp [reopened], fun _ => rfl, ?_⟩
      simpa [reopened, hstate] using hclose
  | diagnosticRecorded hstate => exact ⟨hcontainment, fun _ => hstate, hclose⟩
  | observed => exact ⟨hcontainment, hdiagnostic, hclose⟩
  | diagnosticConsumed =>
      exact ⟨hcontainment, fun hsome => absurd hsome Bool.false_ne_true, hclose⟩
  | diagnosticFailed hpermit =>
      have hopen : current.state = .openUnattributed := hdiagnostic (by rw [hpermit]; rfl)
      refine ⟨?_, fun hsome => absurd hsome Bool.false_ne_true, hclose⟩
      simp [hopen]
  | handedBack => exact ⟨hcontainment, hdiagnostic, hclose⟩
  | contained hstate =>
      refine ⟨by simp, fun hsome => absurd hsome Bool.false_ne_true, ?_⟩
      simpa [hstate] using hclose
  | renewed hstate =>
      refine ⟨?_, hdiagnostic, hclose⟩
      simp [hstate]
  | reopened hstate =>
      refine ⟨by simp, fun _ => rfl, ?_⟩
      simpa [hstate] using hclose
  | packInstallGranted => exact ⟨hcontainment, hdiagnostic, hclose⟩
  | packInstallRevoked => exact ⟨hcontainment, hdiagnostic, hclose⟩
  | targetedMigrationGranted => exact ⟨hcontainment, hdiagnostic, hclose⟩
  | exhausted => exact ⟨hcontainment, hdiagnostic, hclose⟩
  | closed => exact ⟨by simp, fun hsome => absurd hsome Bool.false_ne_true, by simp⟩
  | closedResidual => exact ⟨by simp, fun hsome => absurd hsome Bool.false_ne_true, by simp⟩

theorem states_of_change (h : Change p clock events current operation updated kinds) :
    (kinds.filterMap state?).getLast?.or (some current.state) = some updated.state := by
  cases h with
  | failed => simp [state?, reopened]
  | diagnosticRecorded _ hexpired =>
      rename_i expired _
      have hnone : expired.filterMap state? = [] := by
        rw [List.filterMap_eq_nil_iff]
        intro kind hmem
        obtain ⟨_, rfl⟩ := hexpired kind hmem
        rfl
      rw [List.filterMap_append, hnone]
      rfl
  | _ => rfl

theorem unopened_of_change (h : Change p clock events current operation updated kinds) :
    ∀ kind ∈ kinds, isOpened kind = false := by
  intro kind hmem
  cases h with
  | failed =>
      rcases List.mem_append.mp hmem with hmem | hmem
      · exact @forall_failureKinds (fun kind => isOpened kind = false) _ _ (fun _ => rfl)
          (fun _ => rfl) (fun _ => rfl) kind hmem
      · rw [List.mem_singleton.mp hmem]
        rfl
  | diagnosticRecorded _ hexpired =>
      rcases List.mem_append.mp hmem with hmem | hmem
      · obtain ⟨_, rfl⟩ := hexpired kind hmem
        rfl
      · rw [List.mem_singleton.mp hmem]
        rfl
  | _ =>
      rw [List.mem_singleton.mp hmem]
      rfl

/-! ### The policies -/

theorem contained_of_common {evidence : CloseEvidence} {contained : ℤ}
    (h : requireCommonCloseEvidence p current evidence events = .ok contained) :
    current.state = .containedPendingSoak ∧
      ∃ containment, contained ∈ containments containment events := by
  unfold requireCommonCloseEvidence at h
  split at h
  · rename_i containment hstate _
    simp only [bind_eq_ok, exists_unit] at h
    obtain ⟨-, -, -, -, h⟩ := h
    split at h
    · rename_i honce
      simp only [bind_eq_ok, exists_unit] at h
      obtain ⟨-, -, -, h⟩ := h
      obtain rfl := Except.ok.inj h
      exact ⟨hstate, containment, honce ▸ List.mem_singleton_self _⟩
    · exact absurd h (by rintro ⟨⟩)
  · exact absurd h (by rintro ⟨⟩)
  · exact absurd h (by rintro ⟨⟩)

theorem standsOn_of_attributable {receipt : IncidentCloseReceipt} {payload : ClosePayload}
    (h : validateAttributableClose p current receipt events = .ok payload) :
    current.state = .containedPendingSoak ∧ StandsOn p events (.attributable receipt) := by
  simp only [validateAttributableClose, bind_eq_ok, exists_unit, require_eq_ok] at h
  obtain ⟨contained, hcommon, htrigger, -⟩ := h
  exact ⟨(contained_of_common hcommon).1, htrigger⟩

theorem standsOn_of_residual {receipt : IncidentResidualCloseReceipt}
    {payload : ClosePayload}
    (h : validateResidualClose p current receipt events = .ok payload) :
    current.state = .containedPendingSoak ∧ StandsOn p events (.residual receipt) := by
  simp only [validateResidualClose, bind_eq_ok] at h
  obtain ⟨contained, hcommon, h⟩ := h
  obtain ⟨hstate, hcontained⟩ := contained_of_common hcommon
  split at h
  · rename_i exhaustionAt sha256 exhaustion hexhaustions
    simp only [bind_eq_ok, exists_unit, require_eq_ok] at h
    obtain ⟨⟨rfl, -⟩, hearlier, -⟩ := h
    exact ⟨hstate, exhaustionAt, exhaustion, contained, hexhaustions, hcontained, hearlier⟩
  · exact absurd h (by rintro ⟨⟩)

theorem closed_of_change (h : Change p clock events current operation updated kinds) :
    updated.closeReceipt = current.closeReceipt ∨
      ∃ payload, updated.closeReceipt = some payload ∧ kinds = [.incidentClosed payload] ∧
        current.state = .containedPendingSoak ∧ StandsOn p events payload := by
  cases h with
  | closed _ hpolicy =>
      obtain ⟨hstate, hstands⟩ := standsOn_of_attributable hpolicy
      exact .inr ⟨_, rfl, rfl, hstate, hstands⟩
  | closedResidual _ hpolicy =>
      obtain ⟨hstate, hstands⟩ := standsOn_of_residual hpolicy
      exact .inr ⟨_, rfl, rfl, hstate, hstands⟩
  | _ => exact .inl rfl

theorem standsOn_rest {first : JournalEvent} {rest : List JournalEvent}
    {payload : ClosePayload} (hfirst : isOpened first.kind = true)
    (h : StandsOn p (first :: rest) payload) : StandsOn p rest payload := by
  obtain ⟨recordedAt, kind⟩ := first
  cases kind with
  | incidentOpened failureCode evidence =>
      cases payload with
      | attributable receipt =>
          change (List.filter _ (_ :: rest)).length = 1 at h
          rwa [List.filter_cons_of_neg (by simp [liveTrigger])] at h
      | residual receipt => exact h
  | _ => exact absurd hfirst (by simp [isOpened])

/-! ### Runs -/

structure Kept (p : Platform) (current : IncidentReceipt) (events : List JournalEvent) :
    Prop where
  projected : Projected current
  logged : loggedState events = some current.state
  life : ∃ first rest, events = first :: rest ∧ isOpened first.kind = true ∧
    ∀ event ∈ rest, isOpened event.kind = false
  closed : ∀ payload, current.closeReceipt = some payload → ∃ before recordedAt after,
    ownLife events = before ++ ⟨recordedAt, .incidentClosed payload⟩ :: after ∧
      loggedState before = some .containedPendingSoak ∧ StandsOn p before payload

theorem coherent_of_kept (h : Kept p current events) : Coherent p current events where
  containment := h.projected.containment
  diagnostic := h.projected.diagnostic
  close := h.projected.close
  failures := by
    rintro hstate before contained after rfl - hlast
    have hlogged := h.logged
    rw [hstate] at hlogged
    exact no_failure_after hlogged hlast
  closed := by
    intro hstate
    obtain ⟨payload, hpayload⟩ := Option.isSome_iff_exists.mp (h.projected.close.mpr hstate)
    obtain ⟨before, recordedAt, after, hlife, hcontained, hstands⟩ := h.closed payload hpayload
    exact ⟨payload, before, recordedAt, after, hpayload, hlife, hcontained, hstands⟩

def OpensFresh (journal : Journal) (call : Call) : Prop :=
  ∀ failure, call.operation = .openIncident failure →
    (∀ current, journal.current = some current → current.state = .closed) →
      journal.file (openedReceipt call.clock failure).incidentId = []

theorem kept_opened {failure : Failure}
    (hfresh : journal.file (openedReceipt clock failure).incidentId = []) :
    Kept p (openedReceipt clock failure)
      ((openNew clock failure journal).file (openedReceipt clock failure).incidentId) := by
  unfold openNew
  rw [file_record, hfresh]
  refine ⟨⟨by simp [openedReceipt], fun _ => rfl, by simp [openedReceipt]⟩, rfl,
    ⟨_, [], rfl, rfl, fun _ hmem => absurd hmem List.not_mem_nil⟩, ?_⟩
  intro payload hpayload
  exact absurd hpayload.symm (Option.some_ne_none _)

theorem contained_of_rest {first : JournalEvent} {rest : List JournalEvent}
    (hfirst : isOpened first.kind = true)
    (h : loggedState (first :: rest) = some .containedPendingSoak) :
    loggedState rest = some .containedPendingSoak := by
  have hsplit : first :: rest = [first] ++ rest := rfl
  rw [hsplit, loggedState_append] at h
  cases hrest : loggedState rest with
  | some state => rwa [hrest] at h
  | none =>
      rw [hrest, Option.none_or] at h
      obtain ⟨recordedAt, kind⟩ := first
      cases kind with
      | incidentOpened => exact absurd (Option.some.inj h) (by simp)
      | _ => exact absurd hfirst (by simp [isOpened])

theorem kept_changed (h : Kept p current events) (recordedAt : ℤ)
    (hchange : Change p clock events current operation updated kinds) :
    Kept p updated (events ++ kinds.map fun kind => ⟨recordedAt, kind⟩) := by
  obtain ⟨first, rest, rfl, hfirst, hrest⟩ := h.life
  have hunopened := unopened_of_change hchange
  have hall : ∀ event ∈ rest ++ kinds.map (fun kind => (⟨recordedAt, kind⟩ : JournalEvent)),
      isOpened event.kind = false := by
    intro event hmem
    rcases List.mem_append.mp hmem with hmem | hmem
    · exact hrest event hmem
    · obtain ⟨kind, hkind, rfl⟩ := List.mem_map.mp hmem
      exact hunopened kind hkind
  have hlife : ownLife (first :: rest ++ kinds.map fun kind => ⟨recordedAt, kind⟩) =
      rest ++ kinds.map fun kind => ⟨recordedAt, kind⟩ := ownLife_cons hfirst hall
  refine ⟨projected_of_change h.projected hchange, ?_,
    ⟨first, _, List.cons_append, hfirst, hall⟩, ?_⟩
  · rw [loggedState_append, loggedState_stamped, h.logged]
    exact states_of_change hchange
  · intro payload hpayload
    rw [hlife]
    rcases closed_of_change hchange with hsame | ⟨closing, hclosing, rfl, hstate, hstands⟩
    · rw [hsame] at hpayload
      obtain ⟨before, closedAt, after, hbefore, hcontained, hstands⟩ := h.closed payload hpayload
      rw [ownLife_cons hfirst hrest] at hbefore
      refine ⟨before, closedAt, after ++ kinds.map fun kind => ⟨recordedAt, kind⟩, ?_,
        hcontained, hstands⟩
      rw [hbefore, List.append_assoc, List.cons_append]
    · obtain rfl := Option.some.inj (hpayload.symm.trans hclosing)
      have hlogged := h.logged
      rw [hstate] at hlogged
      exact ⟨rest, recordedAt, [], rfl, contained_of_rest hfirst hlogged,
        standsOn_rest hfirst hstands⟩

def JournalKept (p : Platform) (journal : Journal) : Prop :=
  ∀ current, journal.current = some current →
    Kept p current (journal.file current.incidentId)

theorem kept_step {call : Call} (h : JournalKept p journal) (hfresh : OpensFresh journal call)
    (hperformed : Performed p journal call journal') : JournalKept p journal' := by
  cases hperformed with
  | unchanged => exact h
  | opened hoperation hclosed =>
      rintro current ⟨⟩
      exact kept_opened (hfresh _ hoperation hclosed)
  | changed hcurrent hchange =>
      rintro updated ⟨⟩
      have hincident := incidentId_of_change hchange
      rw [file_record, hincident]
      exact kept_changed (h _ hcurrent) _ hchange

/-- In a run whose incidents take new files, the current incident is coherent after
every call. -/
theorem incidents_stay_coherent {calls : List Call} (h : EachCall p OpensFresh calls)
    (hcurrent : (journalAfter p calls).current = some current) :
    Coherent p current ((journalAfter p calls).file current.incidentId) := by
  have hkept : JournalKept p (journalAfter p calls) := by
    refine holds_after ?_ ?_ h
    · intro current hcurrent
      exact absurd hcurrent.symm (Option.some_ne_none _)
    · intro journal call journal' hholds hfresh hperformed
      exact kept_step hholds hfresh hperformed
  exact coherent_of_kept (hkept current hcurrent)

/-! ### An incident under an earlier id -/

theorem close_eq_ok {incidentId : String} {receipt : IncidentCloseReceipt}
    {payload : ClosePayload} (hvalid : receipt.validate p clock.checked = .ok ())
    (hcurrent : journal.current = some current) (hincident : current.incidentId = incidentId)
    (hopen : current.state ≠ .closed) (hevents : journal.file incidentId = events)
    (hsome : events ≠ [])
    (hpolicy : validateAttributableClose p current receipt events = .ok payload) :
    Journal.close p clock incidentId receipt journal =
      .ok (finalizeClose clock current payload journal) := by
  have hread : readEvents journal incidentId = .ok events := by
    unfold readEvents
    rw [hevents]
    exact if_neg hsome
  simp only [Journal.close, bind_eq_ok, exists_unit, lifted_eq_ok]
  refine ⟨hvalid, current, requireCurrent_of hcurrent hincident, ?_⟩
  rw [if_neg hopen]
  simp only [bind_eq_ok, lifted_eq_ok]
  exact ⟨events, hread, payload, hpolicy, rfl⟩

def attributed (soakWindow : String) : IncidentCloseReceipt where
  toCloseEvidence := closeEvidence soakWindow
  deepTriggerClassification := "sigquit"
  deepTriggerEventSha256 := digest

def secondSoak : String := "2026-07-27T00:30:00Z/2026-07-27T00:40:00Z"

theorem attributed_complete {soakWindow : String} (hwindow : ¬ Blank soakWindow) :
    requiredText
          ([("deep_trigger_classification", "sigquit"),
              ("deep_trigger_event_sha256", digest)] ++
            (attributed soakWindow).required) ++
        requiredEntries "test_evidence_paths" ["test.json"] = [] := by
  have hdigest : ¬ Blank digest := by decide
  have hfix : ¬ Blank fixCommit := by decide
  have htexts : ∀ text ∈ ["sigquit", "containment.json", "reproduction.json", "backup",
      "restore.json", "budget.json", "owner", "owner.json", "test.json"], ¬ Blank text := by
    decide
  simp only [List.mem_cons, List.not_mem_nil, or_false, forall_eq_or_imp, forall_eq] at htexts
  simp [requiredText, requiredEntries, CloseEvidence.required, attributed, closeEvidence,
    hdigest, hfix, htexts, hwindow]

theorem hashes_valid (soakWindow : String) :
    (closeEvidence soakWindow).validateHashes plain = .ok () := by
  simp only [CloseEvidence.validateHashes, closeEvidence, bind_eq_ok, exists_unit]
  exact ⟨digest_valid _, digest_valid _, digest_valid _, digest_valid _, digest_valid _,
    digest_valid _⟩

theorem mentions_eq_false {text marker : String} {c : Char} (hmarker : c ∈ marker.toList)
    (htext : c ∉ text.toList) : mentions text marker = false := by
  apply decide_eq_false
  intro hwithin
  exact htext (hwithin.subset hmarker)

theorem attributed_valid {soakWindow : String} {now : ℤ} (hwindow : ¬ Blank soakWindow)
    (hsoak : (closeEvidence soakWindow).validateSoak plain "incident_close" now = .ok ()) :
    (attributed soakWindow).validate plain now = .ok () := by
  have hlacks : ∀ text ∈ [strip "sigquit", strip "backup"], 'n' ∉ text.toList := by decide
  have hclassified : ∀ marker ∈ ["unknown", "unattributed", "undetermined", "unresolved"],
      mentions (strip "sigquit") marker = false := by
    intro marker hmem
    have hmarker : ∀ marker ∈ ["unknown", "unattributed", "undetermined", "unresolved"],
        'n' ∈ marker.toList := by decide
    exact mentions_eq_false (hmarker marker hmem) (hlacks _ (by simp))
  have hrestored : ∀ marker ∈ ["not_required", "not-required", "unknown", "unavailable"],
      mentions (strip "backup") marker = false := by
    intro marker hmem
    have hmarker : ∀ marker ∈ ["not_required", "not-required", "unknown", "unavailable"],
        'n' ∈ marker.toList := by decide
    exact mentions_eq_false (hmarker marker hmem) (hlacks _ (by simp))
  have hfix : isHex 40 40 fixCommit.toList = true := by decide
  have hnamed : strip "backup" ∉ ["none", "n/a", "na"] := by decide
  have hrestore : (closeEvidence soakWindow).validateRestore plain "incident_close" =
      .ok () := require_of ⟨hrestored, hnamed⟩
  unfold IncidentCloseReceipt.validate
  simp only [bind_eq_ok, exists_unit]
  exact ⟨requireFields_of (attributed_complete hwindow), require_of hclassified,
    require_of hfix, digest_valid _, hashes_valid _, hrestore, hsoak⟩

theorem first_valid : (attributed firstSoak).validate plain (minute 21) = .ok () :=
  attributed_valid (by decide) (by decide)

theorem second_valid : (attributed secondSoak).validate plain (minute 41) = .ok () :=
  attributed_valid (by decide) (by decide)

def closedJournal : Journal :=
  finalizeClose (readings 21) (containedReceipt 3 firstContainment)
    (.attributable (attributed firstSoak)) containedJournal

theorem next_closed :
    next plain containedJournal (callAt 21 (.close opened.incidentId (attributed firstSoak))) =
      closedJournal :=
  next_of_perform (close_eq_ok first_valid
    (rfl : containedJournal.current = some (containedReceipt 3 firstContainment)) rfl
    (by decide) file_containedJournal (by decide) (by decide))

def closedReceipt : IncidentReceipt :=
  { containedReceipt 3 firstContainment with
    state := .closed
    updatedAt := minute 21
    diagnosticPermit := none
    containmentReceipt := none
    closeReceipt := some (.attributable (attributed firstSoak)) }

def reopenedJournal : Journal := openNew (readings 22) outage closedJournal

theorem next_reopened :
    next plain closedJournal (callAt 22 (.openIncident outage)) = reopenedJournal := (rfl)

def secondContainment : IncidentContainmentReceipt :=
  containmentUntil "second" "2026-07-27T00:30:00Z"

def secondReceipt : IncidentReceipt :=
  { openedReceipt (readings 22) outage with
    state := .containedPendingSoak
    updatedAt := minute 23
    diagnosticPermit := none
    containmentReceipt := some secondContainment }

def secondJournal : Journal :=
  reopenedJournal.record secondReceipt (minute 23) [.incidentContained secondContainment]

set_option maxRecDepth 4000 in
theorem next_second :
    next plain reopenedJournal
      (callAt 23 (.markContained opened.incidentId secondContainment)) = secondJournal :=
  (rfl)

def secondLife : List JournalEvent :=
  [⟨minute 22, .incidentOpened "db_down" []⟩,
    ⟨minute 23, .incidentContained secondContainment⟩]

def secondEvents : List JournalEvent :=
  containedEvents ++
    [⟨minute 21, .incidentClosed (.attributable (attributed firstSoak))⟩] ++ secondLife

theorem file_secondJournal : secondJournal.file opened.incidentId = secondEvents := by
  have hclosed : closedReceipt.incidentId = opened.incidentId := rfl
  have hnew : (openedReceipt (readings 22) outage).incidentId = opened.incidentId := rfl
  have hsecond : secondReceipt.incidentId = opened.incidentId := rfl
  have hfile : closedJournal.file opened.incidentId =
      containedEvents ++
        [⟨minute 21, .incidentClosed (.attributable (attributed firstSoak))⟩] := by
    change (containedJournal.record closedReceipt (minute 21)
      [.incidentClosed (.attributable (attributed firstSoak))]).file opened.incidentId = _
    rw [file_record_of hclosed, file_containedJournal]
    rfl
  rw [secondJournal, file_record_of hsecond, reopenedJournal, openNew, file_record_of hnew,
    hfile]
  rfl

def finalReceipt : IncidentReceipt :=
  { secondReceipt with
    state := .closed
    updatedAt := minute 41
    diagnosticPermit := none
    containmentReceipt := none
    closeReceipt := some (.attributable (attributed secondSoak)) }

def finalJournal : Journal :=
  secondJournal.record finalReceipt (minute 41)
    [.incidentClosed (.attributable (attributed secondSoak))]

theorem next_final :
    next plain secondJournal (callAt 41 (.close opened.incidentId (attributed secondSoak))) =
      finalJournal :=
  next_of_perform (close_eq_ok second_valid
    (rfl : secondJournal.current = some secondReceipt) rfl
    (by decide) file_secondJournal (by decide) (by decide))

/-- Two incidents under one id: the second is closed on the trigger of the first. -/
def twiceOpenedRun : List Call :=
  containedRun ++
    [callAt 21 (.close opened.incidentId (attributed firstSoak)),
      callAt 22 (.openIncident outage),
      callAt 23 (.markContained opened.incidentId secondContainment),
      callAt 41 (.close opened.incidentId (attributed secondSoak))]

theorem journalAfter_twiceOpenedRun : journalAfter plain twiceOpenedRun = finalJournal := by
  have hrun : journalAfter plain twiceOpenedRun = stateAfter (next plain)
      (journalAfter plain containedRun)
      [callAt 21 (.close opened.incidentId (attributed firstSoak)),
        callAt 22 (.openIncident outage),
        callAt 23 (.markContained opened.incidentId secondContainment),
        callAt 41 (.close opened.incidentId (attributed secondSoak))] :=
    stateAfter_append ..
  rw [hrun, journalAfter_containedRun, stateAfter_cons, next_closed, stateAfter_cons,
    next_reopened, stateAfter_cons, next_second, stateAfter_cons, next_final]
  rfl

/-- The closed incident does not stand on the events of its own life. -/
theorem incident_closed_on_earlier_evidence :
    ∃ calls current, (journalAfter plain calls).current = some current ∧
      ¬ Coherent plain current ((journalAfter plain calls).file current.incidentId) := by
  refine ⟨twiceOpenedRun, finalReceipt, ?_, ?_⟩
  · rw [journalAfter_twiceOpenedRun]
    rfl
  · intro hcoherent
    obtain ⟨payload, before, recordedAt, after, hpayload, hlife, -, hstands⟩ :=
      hcoherent.closed rfl
    obtain rfl := Option.some.inj hpayload
    change ownLife ((journalAfter plain twiceOpenedRun).file opened.incidentId) = _ at hlife
    have hfinal : finalReceipt.incidentId = opened.incidentId := rfl
    rw [journalAfter_twiceOpenedRun, finalJournal, file_record_of hfinal,
      file_secondJournal] at hlife
    have hown : ownLife (secondEvents ++
        [⟨minute 41, .incidentClosed (.attributable (attributed secondSoak))⟩]) =
          [⟨minute 23, .incidentContained secondContainment⟩,
            ⟨minute 41, .incidentClosed (.attributable (attributed secondSoak))⟩] := rfl
    have hall := hown.symm.trans hlife
    have hnone : before.filter (liveTrigger plain digest) = [] := by
      rw [List.filter_eq_nil_iff]
      intro event hmem
      have hevent := hall ▸ List.mem_append_left _ hmem
      simp only [List.mem_cons, List.not_mem_nil, or_false] at hevent
      rcases hevent with rfl | rfl <;> simp [liveTrigger]
    change (before.filter (liveTrigger plain digest)).length = 1 at hstands
    rw [hnone] at hstands
    exact absurd hstands (by decide)

theorem closed_incident_coherent :
    Coherent plain closedReceipt ((journalAfter plain
      (containedRun ++ [callAt 21 (.close opened.incidentId (attributed firstSoak))])).file
        opened.incidentId) := by
  have hfresh : EachCall plain OpensFresh
      (containedRun ++ [callAt 21 (.close opened.incidentId (attributed firstSoak))]) := by
    refine ⟨fun _ _ _ => rfl, ?_, ?_, ?_, ?_, trivial⟩ <;>
      exact fun _ hoperation => Operation.noConfusion hoperation
  have hcurrent : (journalAfter plain
      (containedRun ++ [callAt 21 (.close opened.incidentId (attributed firstSoak))])).current =
        some closedReceipt := by
    rw [journalAfter, stateAfter_append_singleton, ← journalAfter, journalAfter_containedRun,
      next_closed]
    rfl
  exact incidents_stay_coherent hfresh hcurrent

end MindscapeLocalCore.RuntimeDatabaseIncident.Coherence
