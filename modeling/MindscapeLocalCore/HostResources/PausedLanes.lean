import Mathlib.Data.Finset.Sort
import Mathlib.Data.String.Basic
import MindscapeLocalCore.Library.PythonText
import MindscapeLocalCore.Library.Trace
/-!
Pausing and resuming host resource lanes in processes that share a cache. Each process
keeps a set of its own: it merges the shared list into it when it asks for a lane, and
writes it over the shared list when it pauses or resumes one.
-/

namespace MindscapeLocalCore.HostResources.PausedLanes

open Library.PythonText Library.Trace

/-- `_paused_lanes` of each process, and the value under `PAUSED_LANES_KEY`. -/
structure Fleet where
  pausedLanes : ℕ → Finset String
  cached : Option (List String)

def Fleet.initial : Fleet := ⟨fun _ => ∅, none⟩

def readJsonList (cached : Option (List String)) : List String :=
  (cached.getD []).filter fun item => decide (¬ Blank item)

def currentPausedLanes (process : ℕ) (fleet : Fleet) : Finset String × Fleet :=
  let persisted := (readJsonList fleet.cached).toFinset
  let lanes :=
    if persisted = ∅ then fleet.pausedLanes process
    else fleet.pausedLanes process ∪ persisted
  (lanes, { fleet with pausedLanes := Function.update fleet.pausedLanes process lanes })

structure LaneState where
  laneId : String
  state : String

def writePausedLanes (process : ℕ) (lanes : Finset String) (fleet : Fleet) : Fleet where
  pausedLanes := Function.update fleet.pausedLanes process lanes
  cached := some (lanes.sort (· ≤ ·))

def pauseLane (process : ℕ) (laneId : String) (fleet : Fleet) : LaneState × Fleet :=
  (⟨laneId, "paused"⟩,
    writePausedLanes process (insert laneId (fleet.pausedLanes process)) fleet)

def resumeLane (process : ℕ) (laneId : String) (fleet : Fleet) : LaneState × Fleet :=
  (⟨laneId, "resumed"⟩,
    writePausedLanes process ((fleet.pausedLanes process).erase laneId) fleet)

def isLanePaused (process : ℕ) (laneId : Option String) (fleet : Fleet) : Bool × Fleet :=
  match laneId with
  | none => (false, fleet)
  | some laneId =>
      if laneId = "" then (false, fleet)
      else
        let (lanes, fleet) := currentPausedLanes process fleet
        (decide (laneId ∈ lanes), fleet)

/-! ### Runs -/

inductive Call
  | pauseLane (process : ℕ) (laneId : String)
  | resumeLane (process : ℕ) (laneId : String)
  | isLanePaused (process : ℕ) (laneId : Option String)

def next (fleet : Fleet) : Call → Fleet
  | .pauseLane process laneId => (pauseLane process laneId fleet).2
  | .resumeLane process laneId => (resumeLane process laneId fleet).2
  | .isLanePaused process laneId => (isLanePaused process laneId fleet).2

def after (calls : List Call) : Fleet := stateAfter next .initial calls

def Call.decides : Call → Option String
  | .pauseLane _ laneId | .resumeLane _ laneId => some laneId
  | .isLanePaused _ _ => none

def Call.pauses : Call → Bool
  | .pauseLane _ _ => true
  | .resumeLane _ _ | .isLanePaused _ _ => false

def lastPaused (calls : List Call) (laneId : String) : Bool :=
  ((calls.filter fun call => decide (call.decides = some laneId)).getLast?).any Call.pauses

def Reports (calls : List Call) : Prop :=
  ∀ process laneId,
    (isLanePaused process (some laneId) (after calls)).1 = lastPaused calls laneId

/-- The process that writes has every lane of the shared list, except perhaps the one it
writes about; what it pauses has a name, and what it resumes no other process keeps. -/
def Merged (fleet : Fleet) : Call → Prop
  | .pauseLane process laneId =>
      ¬ Blank laneId ∧
        ∀ lane ∈ readJsonList fleet.cached, lane = laneId ∨ lane ∈ fleet.pausedLanes process
  | .resumeLane process laneId =>
      (∀ lane ∈ readJsonList fleet.cached, lane = laneId ∨ lane ∈ fleet.pausedLanes process) ∧
        ∀ other, other ≠ process → laneId ∉ fleet.pausedLanes other
  | .isLanePaused _ _ => True

variable {fleet : Fleet} {process : ℕ} {laneId lane : String} {lanes : Finset String}
  {calls : List Call} {call : Call}

/-! ### What a process sees -/

theorem mem_readJsonList {cached : Option (List String)} :
    lane ∈ readJsonList cached ↔ lane ∈ cached.getD [] ∧ ¬ Blank lane := by
  simp [readJsonList]

theorem mem_currentPausedLanes :
    lane ∈ (currentPausedLanes process fleet).1 ↔
      lane ∈ fleet.pausedLanes process ∨ lane ∈ readJsonList fleet.cached := by
  simp only [currentPausedLanes]
  split
  · rename_i hempty
    have hnone : lane ∉ readJsonList fleet.cached := by
      rw [← List.mem_toFinset, hempty]
      exact Finset.notMem_empty lane
    exact (or_iff_left hnone).symm
  · rw [Finset.mem_union, List.mem_toFinset]

theorem isLanePaused_eq_true :
    (isLanePaused process (some lane) fleet).1 = true ↔
      lane ≠ "" ∧ (lane ∈ fleet.pausedLanes process ∨ lane ∈ readJsonList fleet.cached) := by
  rw [isLanePaused]
  by_cases hempty : lane = ""
  · simp [hempty]
  · rw [if_neg hempty, decide_eq_true_eq, mem_currentPausedLanes]
    exact (and_iff_right hempty).symm

theorem blank_empty : Blank "" := fun _ h => absurd h List.not_mem_nil

theorem mem_readJsonList_write :
    lane ∈ readJsonList (writePausedLanes process lanes fleet).cached ↔
      lane ∈ lanes ∧ ¬ Blank lane := by
  rw [mem_readJsonList]
  simp [writePausedLanes]

@[simp] theorem pausedLanes_write_self :
    (writePausedLanes process lanes fleet).pausedLanes process = lanes :=
  Function.update_self ..

theorem pausedLanes_write_of_ne {other : ℕ} (hother : other ≠ process) :
    (writePausedLanes process lanes fleet).pausedLanes other = fleet.pausedLanes other :=
  Function.update_of_ne hother ..

@[simp] theorem cached_isLanePaused {laneId : Option String} :
    (isLanePaused process laneId fleet).2.cached = fleet.cached := by
  cases laneId with
  | none => rfl
  | some laneId =>
      rw [isLanePaused]
      split <;> rfl

theorem pausedLanes_isLanePaused {other : ℕ} {laneId : Option String}
    (h : lane ∈ (isLanePaused process laneId fleet).2.pausedLanes other) :
    lane ∈ fleet.pausedLanes other ∨ lane ∈ readJsonList fleet.cached := by
  cases laneId with
  | none => exact .inl h
  | some laneId =>
      rw [isLanePaused] at h
      split at h
      · exact .inl h
      · change lane ∈ Function.update fleet.pausedLanes process
          (currentPausedLanes process fleet).1 other at h
        by_cases hother : other = process
        · subst hother
          rw [Function.update_self] at h
          exact mem_currentPausedLanes.mp h
        · rw [Function.update_of_ne hother] at h
          exact .inl h

theorem lastPaused_append (h : call.decides = some lane) :
    lastPaused (calls ++ [call]) lane = call.pauses := by
  simp [lastPaused, h]

theorem lastPaused_append_of_ne (h : call.decides ≠ some lane) :
    lastPaused (calls ++ [call]) lane = lastPaused calls lane := by
  simp [lastPaused, h]

theorem lastPaused_append_other (hcall : call.decides = some laneId) (h : lane ≠ laneId) :
    lastPaused (calls ++ [call]) lane = lastPaused calls lane :=
  lastPaused_append_of_ne fun hsame => h (Option.some.inj (hcall.symm.trans hsame)).symm

/-! ### What a call keeps -/

/-- The shared list has the paused lanes, and no process has others. -/
structure Synced (calls : List Call) : Prop where
  shared : ∀ lane, lane ∈ readJsonList (after calls).cached ↔ lastPaused calls lane = true
  own : ∀ process, ∀ lane ∈ (after calls).pausedLanes process, lastPaused calls lane = true

theorem synced_nil : Synced [] where
  shared lane := by simp [after, Fleet.initial, readJsonList, lastPaused]
  own process lane h := absurd h (Finset.notMem_empty lane)

theorem reports_of_synced (h : Synced calls) : Reports calls := by
  intro process lane
  rw [Bool.eq_iff_iff, isLanePaused_eq_true]
  constructor
  · rintro ⟨-, hown | hshared⟩
    · exact h.own process lane hown
    · exact (h.shared lane).mp hshared
  · intro hpaused
    have hshared := (h.shared lane).mpr hpaused
    refine ⟨?_, .inr hshared⟩
    rintro rfl
    exact (mem_readJsonList.mp hshared).2 blank_empty

theorem after_append : after (calls ++ [call]) = next (after calls) call :=
  stateAfter_append_singleton ..

theorem synced_of_write
    (hnext : next (after calls) call = writePausedLanes process lanes (after calls))
    (hown : ∀ other, other ≠ process → ∀ lane ∈ (after calls).pausedLanes other,
      lastPaused (calls ++ [call]) lane = true)
    (hlanes : ∀ lane, lane ∈ lanes ↔ lastPaused (calls ++ [call]) lane = true)
    (hnamed : ∀ lane ∈ lanes, ¬ Blank lane) : Synced (calls ++ [call]) where
  shared lane := by
    rw [after_append, hnext, mem_readJsonList_write, hlanes]
    exact and_iff_left_of_imp fun hpaused => hnamed lane ((hlanes lane).mpr hpaused)
  own other lane hmem := by
    rw [after_append, hnext] at hmem
    by_cases hother : other = process
    · subst hother
      rw [pausedLanes_write_self] at hmem
      exact (hlanes lane).mp hmem
    · rw [pausedLanes_write_of_ne hother] at hmem
      exact hown other hother lane hmem

theorem named_of_synced (h : Synced calls) (hpaused : lastPaused calls lane = true) :
    ¬ Blank lane := (mem_readJsonList.mp ((h.shared lane).mpr hpaused)).2

theorem mem_pausedLanes_of_synced (h : Synced calls)
    (hmerged : ∀ lane ∈ readJsonList (after calls).cached,
      lane = laneId ∨ lane ∈ (after calls).pausedLanes process) (hne : lane ≠ laneId) :
    lane ∈ (after calls).pausedLanes process ↔ lastPaused calls lane = true := by
  refine ⟨h.own process lane, fun hpaused => ?_⟩
  exact (hmerged lane ((h.shared lane).mpr hpaused)).resolve_left hne

theorem synced_pauseLane (h : Synced calls)
    (hmerged : Merged (after calls) (.pauseLane process laneId)) :
    Synced (calls ++ [.pauseLane process laneId]) := by
  obtain ⟨hnamed, hmerged⟩ := hmerged
  have hkept : ∀ other, ∀ lane ∈ (after calls).pausedLanes other,
      lastPaused (calls ++ [.pauseLane process laneId]) lane = true := by
    intro other lane hmem
    by_cases hlane : lane = laneId
    · subst hlane
      exact lastPaused_append rfl
    · rw [lastPaused_append_other rfl hlane]
      exact h.own other lane hmem
  refine synced_of_write rfl (fun other _ => hkept other) ?_ ?_
  · intro lane
    rw [Finset.mem_insert]
    by_cases hlane : lane = laneId
    · subst hlane
      rw [lastPaused_append rfl]
      exact iff_of_true (.inl rfl) rfl
    · rw [lastPaused_append_other rfl hlane, or_iff_right hlane]
      exact mem_pausedLanes_of_synced h hmerged hlane
  · intro lane hmem
    rcases Finset.mem_insert.mp hmem with rfl | hmem
    · exact hnamed
    · exact named_of_synced h (h.own process lane hmem)

theorem synced_resumeLane (h : Synced calls)
    (hmerged : Merged (after calls) (.resumeLane process laneId)) :
    Synced (calls ++ [.resumeLane process laneId]) := by
  obtain ⟨hmerged, hothers⟩ := hmerged
  refine synced_of_write rfl ?_ ?_ ?_
  · intro other hother lane hmem
    have hlane : lane ≠ laneId := by
      rintro rfl
      exact hothers other hother hmem
    rw [lastPaused_append_other rfl hlane]
    exact h.own other lane hmem
  · intro lane
    rw [Finset.mem_erase]
    by_cases hlane : lane = laneId
    · subst hlane
      rw [lastPaused_append rfl]
      exact iff_of_false (fun hmem => hmem.1 rfl) Bool.false_ne_true
    · rw [lastPaused_append_other rfl hlane, and_iff_right hlane]
      exact mem_pausedLanes_of_synced h hmerged hlane
  · intro lane hmem
    exact named_of_synced h (h.own process lane (Finset.mem_of_mem_erase hmem))

theorem synced_isLanePaused {laneId : Option String} (h : Synced calls) :
    Synced (calls ++ [.isLanePaused process laneId]) where
  shared lane := by
    rw [after_append, next, cached_isLanePaused, lastPaused_append_of_ne (by simp [Call.decides])]
    exact h.shared lane
  own other lane hmem := by
    rw [lastPaused_append_of_ne (by simp [Call.decides])]
    rw [after_append, next] at hmem
    rcases pausedLanes_isLanePaused hmem with hown | hshared
    · exact h.own other lane hown
    · exact (h.shared lane).mp hshared

theorem synced_append (h : Synced calls) (hmerged : Merged (after calls) call) :
    Synced (calls ++ [call]) := by
  cases call with
  | pauseLane process laneId => exact synced_pauseLane h hmerged
  | resumeLane process laneId => exact synced_resumeLane h hmerged
  | isLanePaused process laneId => exact synced_isLanePaused h

/-! ### What a write that loses a lane shows -/

theorem isLanePaused_write :
    (isLanePaused process (some lane) (writePausedLanes process lanes fleet)).1 = true ↔
      lane ≠ "" ∧ lane ∈ lanes := by
  rw [isLanePaused_eq_true, pausedLanes_write_self, mem_readJsonList_write]
  exact and_congr_right fun _ => or_iff_left_of_imp fun hmem => hmem.1

theorem mem_of_reports_write (h : Synced calls) (hcall : call.decides = some laneId)
    (hnext : next (after calls) call = writePausedLanes process lanes (after calls))
    (hreports : Reports (calls ++ [call])) (hmem : lane ∈ readJsonList (after calls).cached)
    (hlane : lane ≠ laneId) : lane ∈ lanes := by
  have hpaused := hreports process lane
  rw [after_append, hnext, lastPaused_append_other hcall hlane,
    (h.shared lane).mp hmem] at hpaused
  exact (isLanePaused_write.mp hpaused).2

theorem merged_of_reports (h : Synced calls) (hreports : Reports (calls ++ [call])) :
    Merged (after calls) call := by
  cases call with
  | isLanePaused process laneId => trivial
  | pauseLane process laneId =>
      refine ⟨fun hblank => ?_, fun lane hmem => ?_⟩
      -- a blank lane is dropped when another process reads the list
      · have hpaused := hreports (process + 1) laneId
        rw [lastPaused_append rfl, after_append] at hpaused
        obtain ⟨-, hown | hshared⟩ := isLanePaused_eq_true.mp hpaused
        · change laneId ∈ (writePausedLanes process _ (after calls)).pausedLanes _ at hown
          rw [pausedLanes_write_of_ne (Nat.succ_ne_self process)] at hown
          exact named_of_synced h (h.own _ laneId hown) hblank
        · exact (mem_readJsonList.mp hshared).2 hblank
      · by_cases hlane : lane = laneId
        · exact .inl hlane
        · have hkept := mem_of_reports_write h rfl rfl hreports hmem hlane
          exact .inr ((Finset.mem_insert.mp hkept).resolve_left hlane)
  | resumeLane process laneId =>
      refine ⟨fun lane hmem => ?_, fun other hother hmem => ?_⟩
      · by_cases hlane : lane = laneId
        · exact .inl hlane
        · have hkept := mem_of_reports_write h rfl rfl hreports hmem hlane
          exact .inr (Finset.mem_of_mem_erase hkept)
      · have hresumed := hreports other laneId
        rw [lastPaused_append rfl, after_append] at hresumed
        have hnamed := named_of_synced h (h.own other laneId hmem)
        have hpaused : (isLanePaused other (some laneId)
            (next (after calls) (.resumeLane process laneId))).1 = true := by
          refine isLanePaused_eq_true.mpr ⟨?_, .inl ?_⟩
          · rintro rfl
            exact hnamed blank_empty
          · change laneId ∈ (writePausedLanes process _ (after calls)).pausedLanes other
            rwa [pausedLanes_write_of_ne hother]
        rw [hpaused] at hresumed
        exact Bool.false_ne_true hresumed.symm

theorem synced_of_merged (h : Along next Merged .initial calls) : Synced calls := by
  induction calls using List.reverseRecOn with
  | nil => exact synced_nil
  | append_singleton calls call ih =>
      obtain ⟨hcalls, hcall⟩ := along_append_singleton next |>.mp h
      exact synced_append (ih hcalls) hcall

/-- In a run of any number of processes the reports are right at every moment if and only
if every call that pauses or resumes a lane finds the sets merged. -/
theorem pauses_and_resumes_are_seen (calls : List Call) :
    (∀ before rest, calls = before ++ rest → Reports before) ↔
      Along next Merged .initial calls := by
  induction calls using List.reverseRecOn with
  | nil =>
      refine iff_of_true (fun before rest hsplit => ?_) trivial
      rw [(List.append_eq_nil_iff.mp hsplit.symm).1]
      exact reports_of_synced synced_nil
  | append_singleton calls call ih =>
      rw [along_append_singleton, ← ih]
      constructor
      · intro hall
        have hbefore : ∀ before rest, calls = before ++ rest → Reports before := by
          rintro before rest rfl
          exact hall before (rest ++ [call]) (by simp)
        have hsynced := synced_of_merged (ih.mp hbefore)
        exact ⟨hbefore, merged_of_reports hsynced (hall _ [] (by simp))⟩
      · rintro ⟨hbefore, hcall⟩ before rest hsplit
        rcases List.eq_nil_or_concat rest with rfl | ⟨rest, last, rfl⟩
        · rw [List.append_nil] at hsplit
          subst hsplit
          exact reports_of_synced (synced_append (synced_of_merged (ih.mp hbefore)) hcall)
        · rw [List.concat_eq_append, ← List.append_assoc] at hsplit
          exact hbefore before rest (List.append_inj' hsplit rfl).1

/-- Two processes pause a lane each: the second writes its own set over the list of the
first. -/
theorem pause_lost : ¬ Reports [.pauseLane 0 "a", .pauseLane 1 "b"] := by
  intro hreports
  have hlost := hreports 1 "a"
  have hpaused : lastPaused [.pauseLane 0 "a", .pauseLane 1 "b"] "a" = true := by decide
  rw [hpaused] at hlost
  change (isLanePaused 1 (some "a") (writePausedLanes 1 (insert "b" ∅)
    (writePausedLanes 0 (insert "a" ∅) .initial))).1 = true at hlost
  obtain ⟨-, hmem⟩ := isLanePaused_write.mp hlost
  exact absurd hmem (by decide)

end MindscapeLocalCore.HostResources.PausedLanes
