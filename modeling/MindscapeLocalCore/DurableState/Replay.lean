import MindscapeLocalCore.DurableState.Projections

/-!
Bounded replay of a workflow: the review service reads the first page of the events and reduces
them up to a sequence.
-/

namespace MindscapeLocalCore.DurableState.Replay

open Library.Guarded Library.HashChain Library.Json Calls CanonicalJson Chain Errors ExecutionRuns
open FacadeAppend
open ProductIterationContract (quoted)
open Projections Records Records.Ledger Reducers Samples SingleWorkflow Transitions

abbrev Reducer := Dict → EventRow → Check Dict

/-- `ReplayResult`; its reducer version is that of the row. -/
structure ReplayResult where
  sequence : ℕ
  eventHash : Option String
  state : Dict

/-- The loop of `reduce_as_of`. -/
def reduceEvents (reducer : Reducer) (target : ℤ) : ReplayResult → List EventRow →
    Check ReplayResult
  | result, [] => .ok result
  | result, event :: rest =>
      if target < event.sequence then .ok result
      else do
        ensure (event.sequence = result.sequence + 1) "event sequence is not contiguous"
        ensure (event.previousEventHash = result.eventHash) "event predecessor hash is invalid"
        let state ← reducer result.state event
        reduceEvents reducer target ⟨event.sequence, some event.eventHash, state⟩ rest

/-- `reduce_as_of`, from a state that no event has reduced. -/
def reduceAsOf (reducer : Reducer) (initialState : Dict) (events : List EventRow) (target : ℤ) :
    Check ReplayResult := do
  let result ← reduceEvents reducer target ⟨0, none, initialState⟩ events
  ensure (result.sequence = target) "target exceeds the bounded replay window"
  pure result

def maxPage : ℕ := 50

def requireWorkspace (L : Ledger) (workspaceId workflowId : String) : Check InstanceRow :=
  match (L.row? workflowId).filter fun row => row.workspaceId = workspaceId with
  | some row => .ok row
  | none => .error (.keyError "durable workflow was not found in workspace")

/-- The query of `events_after` and `read_events_after`. -/
def eventsAfter (L : Ledger) (workflowId : String) (cursor : ℤ) (limit : ℕ) : List EventRow :=
  (((L.eventsOf workflowId).filter fun event => cursor < event.sequence).mergeSort
    fun a b => decide (a.sequence ≤ b.sequence)).take limit

/-- What `as_of` copies from the semantic identity. -/
def identityColumns (identity : Dict) : Check (List Json) :=
  ["development_attestation_id", "development_attestation_sha256", "consumer_compatibility_class",
    "configuration_fingerprint", "environment_fingerprint", "data_fingerprint"].mapM (item identity)

/-- What `as_of` copies from the columns of the row. -/
def versionColumns (row : InstanceRow) : List String :=
  [row.reducerVersion, row.workflowDefinitionVersion, row.effectAdapterRegistryVersion,
    row.runtimeBuildId]

/-- What `as_of` returns. -/
structure Snapshot where
  result : ReplayResult
  versions : List String
  identity : List Json

def asOf (reducers : String → Option Reducer) (L : Ledger) (workspaceId workflowId : String)
    (target : ℤ) : Check Snapshot := do
  let row ← requireWorkspace L workspaceId workflowId
  match reducers row.reducerVersion with
  | none => .error (.keyError ("pinned reducer " ++ quoted (.str row.reducerVersion) ++
      " is unavailable"))
  | some reducer =>
      ensure (target ≤ maxPage) "as-of target requires a bounded signed checkpoint"
      let result ← reduceAsOf reducer (openingProjection (initialState row.workflowKind))
        (eventsAfter L workflowId 0 maxPage) target
      let identity ← identityColumns row.semanticIdentity
      pure ⟨result, versionColumns row, identity⟩

def routeReducers (world : World) (version : String) : Option Reducer :=
  if version = "reducer.v1" then some (reduceV1 world) else none

variable {world : World} {p : Ledger → Context → Call → Prop} {L L' : Ledger} {w : String}
  {row : InstanceRow}

/-! ## The loop -/

theorem reduceEvents_of_linked {reducer : Reducer} {target : ℤ} {result : ReplayResult}
    {events : List EventRow} (hlinked : Linked eventLinks result.eventHash result.sequence events)
    {k : ℕ} (hk : k = (target - result.sequence).toNat) :
    reduceEvents reducer target result events =
      ((events.take k).foldlM reducer result.state).map fun state =>
        ⟨result.sequence + (events.take k).length,
          tip eventLinks result.eventHash (events.take k), state⟩ := by
  induction events generalizing result k with
  | nil =>
      rw [List.take_nil]
      rfl
  | cons event rest ih =>
      obtain ⟨hsequence, hprevious, hrest⟩ := hlinked
      change event.sequence = _ at hsequence
      change event.previousEventHash = _ at hprevious
      rw [reduceEvents]
      cases k with
      | zero =>
          rw [if_pos (by omega)]
          rfl
      | succ k =>
          rw [if_neg (by omega), ensure_of hsequence, ok_bind, ensure_of hprevious, ok_bind,
            List.take_succ_cons, List.foldlM_cons, tip_cons, List.length_cons]
          cases reducer result.state event with
          | error failure => rfl
          | ok state =>
              have hnext := @ih ⟨event.sequence, some event.eventHash, state⟩
                (hsequence ▸ hrest) k (by dsimp only; omega)
              rw [ok_bind, hnext]
              change Except.map _ _ = Except.map _ _
              rw [hsequence, Nat.add_right_comm]
              rfl

theorem reduceAsOf_eq_ok_iff {reducer : Reducer} {state : Dict} {events : List EventRow}
    (hlinked : Linked eventLinks none 0 events) {target : ℤ} {result : ReplayResult} :
    reduceAsOf reducer state events target = .ok result ↔
      ∃ k : ℕ, target = k ∧ k ≤ events.length ∧ result.sequence = k ∧
        result.eventHash = tip eventLinks none (events.take k) ∧
        (events.take k).foldlM reducer state = .ok result.state := by
  have hreduced := @reduceEvents_of_linked reducer target ⟨0, none, state⟩ events hlinked
    target.toNat (by simp)
  rw [reduceAsOf, hreduced]
  simp only [bind_eq_ok, map_eq_ok, pure_eq_ok, ensure_eq_ok, exists_unit, Except.ok.injEq,
    Nat.zero_add, List.length_take]
  constructor
  · rintro ⟨_, ⟨final, hfold, rfl⟩, htarget, rfl⟩
    change ((min target.toNat events.length : ℕ) : ℤ) = target at htarget
    exact ⟨target.toNat, by omega, by omega, by dsimp only; omega, rfl, hfold⟩
  · rintro ⟨k, rfl, hlength, hsequence, hhash, hfold⟩
    refine ⟨_, ⟨result.state, hfold, rfl⟩, by dsimp only [Int.toNat_natCast]; omega, ?_⟩
    rw [Int.toNat_natCast, Nat.min_eq_left hlength, ← hhash, ← hsequence]

/-! ## The page -/

theorem filter_of_linked {start : Option String} {n : ℕ} {events : List EventRow}
    (h : Linked eventLinks start n events) (c : ℕ) :
    (events.filter fun event => n + c < event.sequence) = events.drop c := by
  induction events generalizing start n c with
  | nil => rw [List.filter_nil, List.drop_nil]
  | cons event rest ih =>
      obtain ⟨hsequence, -, hrest⟩ := h
      change event.sequence = n + 1 at hsequence
      cases c with
      | zero =>
          have hkept : ∀ later ∈ rest, n < later.sequence := fun later hlater => by
            have hmem := List.mem_map_of_mem (f := eventLinks.sequence) hlater
            rw [map_sequence_of_linked eventLinks hrest, List.mem_range'_1] at hmem
            exact Nat.lt_of_lt_of_le (by omega) hmem.1
          rw [List.drop_zero, List.filter_eq_self]
          intro later hlater
          rcases List.mem_cons.mp hlater with rfl | hlater
          · exact decide_eq_true (by omega)
          · exact decide_eq_true (hkept later hlater)
      | succ c =>
          rw [List.filter_cons_of_neg (by simp only [decide_eq_true_eq]; omega), List.drop_succ_cons,
            ← ih hrest c]
          simp only [Nat.add_assoc, Nat.add_comm 1 c]

theorem eventsAfter_of_linked (hlinked : Linked eventLinks none 0 (L.eventsOf w)) (cursor : ℤ)
    (limit : ℕ) :
    eventsAfter L w cursor limit = ((L.eventsOf w).drop cursor.toNat).take limit := by
  have hfilter : ((L.eventsOf w).filter fun event => cursor < event.sequence) =
      (L.eventsOf w).drop cursor.toNat := by
    rw [← filter_of_linked hlinked]
    refine List.filter_congr fun event hevent => ?_
    have hmem := List.mem_map_of_mem (f := eventLinks.sequence) hevent
    rw [map_sequence_of_linked eventLinks hlinked, List.mem_range'_1] at hmem
    change 0 + 1 ≤ event.sequence ∧ _ at hmem
    exact decide_eq_decide.mpr (by omega)
  have hsorted : (L.eventsOf w).Pairwise fun a b => a.sequence ≤ b.sequence := by
    have hrange := @List.pairwise_le_range' 1 (L.eventsOf w).length 1
    rw [← map_sequence_of_linked eventLinks hlinked, List.pairwise_map] at hrange
    exact hrange
  rw [eventsAfter, hfilter, List.mergeSort_of_pairwise
    ((hsorted.drop).imp fun h => decide_eq_true h)]

/-! ## Replays -/

theorem requireWorkspace_eq_ok {workspaceId : String} :
    requireWorkspace L workspaceId w = .ok row ↔
      L.row? w = some row ∧ row.workspaceId = workspaceId := by
  unfold requireWorkspace
  cases L.row? w with
  | none => simp
  | some found =>
      by_cases hw : found.workspaceId = workspaceId
      · simp only [Option.filter_some, hw, decide_true, if_true, Except.ok.injEq, Option.some.injEq]
        exact ⟨fun h => ⟨h, h ▸ hw⟩, And.left⟩
      · simp only [Option.filter_some, hw, decide_false, Bool.false_eq_true, if_false, reduceCtorEq,
          false_iff, not_and, Option.some.injEq]
        rintro rfl
        exact hw

theorem linked_take {start : Option String} {n : ℕ} {events : List EventRow}
    (h : Linked eventLinks start n events) (k : ℕ) : Linked eventLinks start n (events.take k) := by
  induction events generalizing start n k with
  | nil => rwa [List.take_nil]
  | cons event rest ih =>
      cases k with
      | zero => trivial
      | succ k => exact ⟨h.1, h.2.1, ih h.2.2 k⟩

/-- A replay returns for the targets of the first page that the workflow has reached, with the
fold over the events up to there. -/
theorem asOf_eq_ok_iff (hchain : Chained world row (L.eventsOf w)) (hrow : L.row? w = some row)
    {target : ℤ} {snapshot : Snapshot} :
    asOf (routeReducers world) L row.workspaceId w target = .ok snapshot ↔
      row.reducerVersion = "reducer.v1" ∧ snapshot.versions = versionColumns row ∧
        identityColumns row.semanticIdentity = .ok snapshot.identity ∧
        ∃ k : ℕ, target = k ∧ k ≤ maxPage ∧ k ≤ row.currentSequence ∧
          snapshot.result.sequence = k ∧
          snapshot.result.eventHash = tip eventLinks none ((L.eventsOf w).take k) ∧
          reduceAll world (openingProjection (initialState row.workflowKind))
            ((L.eventsOf w).take k) = .ok snapshot.result.state := by
  rw [asOf, requireWorkspace_eq_ok.mpr ⟨hrow, rfl⟩, ok_bind, routeReducers]
  by_cases hversion : row.reducerVersion = "reducer.v1"
  · rw [if_pos hversion]
    simp only [bind_eq_ok, ensure_eq_ok, exists_unit, pure_eq_ok, Except.ok.injEq,
      eventsAfter_of_linked hchain.linked, Int.toNat_zero, List.drop_zero, reduceAsOf_eq_ok_iff (linked_take hchain.linked maxPage),
      List.take_take, List.length_take, hchain.currentSequence]
    constructor
    · rintro ⟨hpage, result, ⟨k, rfl, hk, hsequence, hhash, hfold⟩, identity, hidentity, rfl⟩
      have hle : k ≤ maxPage := hk.trans (Nat.min_le_left ..)
      rw [Nat.min_eq_left hle] at hhash hfold
      exact ⟨hversion, rfl, hidentity, k, rfl, hle, hk.trans (Nat.min_le_right ..), hsequence, hhash,
        hfold⟩
    · rintro ⟨-, hversions, hidentity, k, rfl, hle, hreached, hsequence, hhash, hfold⟩
      refine ⟨Int.ofNat_le.mpr hle, snapshot.result, ⟨k, rfl, Nat.le_min.mpr ⟨hle, hreached⟩,
        hsequence, ?_, ?_⟩, snapshot.identity, hidentity, by rw [← hversions]⟩
      · rwa [Nat.min_eq_left hle]
      · rwa [Nat.min_eq_left hle]
  · rw [if_neg hversion]
    exact iff_of_false (by rintro ⟨⟩) fun h => hversion h.1

/-! ## Replays of a ledger that went on -/

theorem run_trans {M : Ledger} (h : Run world L M) (hrun : Run world M L') : Run world L L' := by
  induction hrun with
  | refl => exact h
  | step _ ctx call _ ih => exact .step ih ctx call trivial

/-- A workflow keeps its row, but for the columns of its chain, and its events. -/
structure Continued (row : InstanceRow) (L : Ledger) (w : String) (M : Ledger) : Prop where
  row : ∃ row', M.row? w = some row' ∧ SameIdentity row row'
  events : L.eventsOf w <+: M.eventsOf w

theorem continued_of_write {M M' : Ledger} (hM : Continued row L w M) (h : Write world M M') :
    Continued row L w M' := by
  obtain ⟨⟨before, hbefore, hsame⟩, hevents⟩ := hM
  refine ⟨?_, hevents.trans (eventsOf_prefix_of_writes (writes_single h) w)⟩
  change (M.view w).row = some before at hbefore
  change ∃ row', (M'.view w).row = some row' ∧ _
  cases h with
  | kept h =>
      rw [h w]
      exact ⟨before, hbefore, hsame⟩
  | opened fresh state h =>
      have hw : w ≠ fresh.workflowId := by
        rintro rfl
        exact absurd (h.absent.symm.trans hbefore) (by rintro ⟨⟩)
      rw [h.frame w hw]
      exact ⟨before, hbefore, hsame⟩
  | appended key actor locked append event _ h =>
      by_cases hw : w = locked.workflowId
      · subst hw
        cases h.own.row.symm.trans hbefore
        obtain ⟨deadline, -, hadvanced⟩ := h.own.advanced
        exact ⟨_, hadvanced, sameIdentity_trans hsame (sameIdentity_appendedRow _ _ _ _)⟩
      · rw [h.frame w hw]
        exact ⟨before, hbefore, hsame⟩

theorem continued_of_run (hrow : L.row? w = some row) (hrun : Run world L L') :
    Continued row L w L' :=
  invariant_of_writes (P := Continued row L w) (fun _ _ hM hwrite => continued_of_write hM hwrite)
    hrun ⟨⟨row, hrow, rfl⟩, List.prefix_rfl⟩

theorem chained_of_reachable (hL : Reachable world L) (hrow : L.row? w = some row) :
    Chained world row (L.eventsOf w) :=
  (chainOf_some hrow).mp (chainOf_of_reachable hL w)

/-- Whatever is called later, a workflow keeps its events and its identity, its events stay chained
from the first on, and its row counts and sums them. -/
theorem history_kept (hL : Reachable world L) (hrun : Run world L L') (hrow : L.row? w = some row) :
    L.eventsOf w <+: L'.eventsOf w ∧
      ∃ row', L'.row? w = some row' ∧ SameIdentity row row' ∧
        Chained world row' (L'.eventsOf w) := by
  obtain ⟨⟨row', hrow', hsame⟩, hevents⟩ := continued_of_run hrow hrun
  exact ⟨hevents, row', hrow', hsame, chained_of_reachable (run_trans hL hrun) hrow'⟩

/-- In every later ledger, the replay as of the sequence that a workflow had reached returns the
projection that was stored when it had. -/
theorem asOf_past (h : OpenedWith world p w (initialState row.workflowKind) L)
    (hrow : L.row? w = some row) (hrun : Run world L L')
    (hversion : row.reducerVersion = "reducer.v1") {identity : List Json}
    (hidentity : identityColumns row.semanticIdentity = .ok identity)
    (hpage : row.currentSequence ≤ maxPage) :
    ∃ snapshot, asOf (routeReducers world) L' row.workspaceId w row.currentSequence = .ok snapshot ∧
      snapshot.result.eventHash = row.currentEventHash ∧
      ∀ projection, L.projection? w = some projection →
        snapshot.result.state = projection.state := by
  have hreach := run_of_runWhere (runWhere_of_openedWith h)
  have hchain := chained_of_reachable hreach hrow
  obtain ⟨⟨row', hrow', hsame⟩, hevents⟩ := continued_of_run hrow hrun
  have hchain' := chained_of_reachable (run_trans hreach hrun) hrow'
  have htake : (L'.eventsOf w).take row.currentSequence = L.eventsOf w := by
    rw [hchain.currentSequence]
    exact (List.prefix_iff_eq_take.mp hevents).symm
  obtain ⟨before, prior, hbefore, hprior, hfold⟩ := (folded_of_openedWith h).fold
  cases hrow.symm.trans hbefore
  have hworkspace : row'.workspaceId = row.workspaceId := by rw [hsame]
  have hkind : row'.workflowKind = row.workflowKind := by rw [hsame]
  have hcurrent : row.currentSequence ≤ row'.currentSequence := by
    rw [hchain.currentSequence, hchain'.currentSequence]
    exact hevents.length_le
  refine ⟨⟨⟨row.currentSequence, row.currentEventHash, prior⟩, versionColumns row', identity⟩, ?_,
    rfl, fun projection hprojection => ?_⟩
  · rw [← hworkspace]
    refine (asOf_eq_ok_iff hchain' hrow').mpr ⟨?_, rfl, ?_, _, rfl, hpage, hcurrent, rfl, ?_, ?_⟩
    · rw [hsame]
      exact hversion
    · rw [hsame]
      exact hidentity
    · rw [htake]
      exact hchain.currentEventHash
    · rw [htake, hkind]
      exact hfold
  · change priorState (L.projection? w) row = .ok prior at hprior
    rw [hprojection] at hprior
    exact (priorState_some.mp hprior).2.symm

theorem opened_message : ∃ L L' row row', Reachable testWorld L ∧ Run testWorld L L' ∧
    OpenedWith testWorld (fun _ _ _ => True) "workflow:test" .pending L' ∧
    L.row? "workflow:test" = some row ∧ L'.row? "workflow:test" = some row' ∧
    (∃ identityHash, SameIdentity (openedRow .execution identityHash) row) ∧
    (∃ identityHash, SameIdentity (openedRow .execution identityHash) row') ∧
    row.currentSequence = 0 ∧ row'.currentSequence = 1 := by
  obtain ⟨row, state, L, hstage, hopen, hstate, -⟩ := opened_stage
  obtain ⟨event, row', state', L', hexec, hstep⟩ := message_step "key:test" "message:test" hstage
    (by decide) welcome_service (by decide) (by rintro _ ⟨⟩) (by rintro _ ⟨⟩)
  have hrow := row?_of_solo hstage.solo
  have hrow' := row?_of_solo hstep.stage.solo
  rw [workflowId_of_stage hstage] at hrow
  rw [workflowId_of_stage hstep.stage] at hrow'
  have hopened : step testWorld (context 0) (.openWorkflow (identity .execution)) Ledger.empty = L := by
    rw [step, hopen]
  have happended : step testWorld (context 0) (.append (inputAt 0 "key:test" service)
      (.recordExternalMessage (message "message:test"))) L = L' := by
    rw [step, hexec]
  have hbefore : OpenedWith testWorld (fun _ _ _ => True) "workflow:test" .pending L := by
    have hfound := hrow
    rw [← hopened] at hfound ⊢
    exact .opening (.refl _) _ _ trivial rfl hfound hstate
  refine ⟨L, L', row, row', hstage.reachable, ?_, ?_, hrow, hrow', hstage.identity,
    hstep.stage.identity, hstage.solo.currentSequence, hstep.stage.solo.currentSequence⟩
  · rw [← happended]
    exact .step (.refl _) _ _ trivial
  · rw [← happended]
    exact .later hbefore _ _ trivial

def sampleColumns : List Json :=
  [.str "attestation:test", .str zeros, .str "compatible", .str zeros, .str zeros, .str zeros]

theorem asOf_past_message : ∃ L snapshot, Reachable testWorld L ∧
    asOf (routeReducers testWorld) L "workspace:test" "workflow:test" 1 = .ok snapshot ∧
    ∀ projection, L.projection? "workflow:test" = some projection →
      snapshot.result.state = projection.state := by
  obtain ⟨-, L, -, row, -, -, hopened, -, hrow, -, ⟨identityHash, hsame⟩, -, hsequence⟩ :=
    opened_message
  have hkind : row.workflowKind = .execution := by rw [hsame]; rfl
  have hworkspace : row.workspaceId = "workspace:test" := by rw [hsame]; rfl
  have hidentity : identityColumns row.semanticIdentity = .ok sampleColumns := by rw [hsame]; rfl
  have hstart : OpenedWith testWorld (fun _ _ _ => True) "workflow:test"
      (initialState row.workflowKind) L := by
    rw [hkind]
    exact hopened
  obtain ⟨snapshot, hasOf, -, hstate⟩ := asOf_past hstart hrow (.refl _) (by rw [hsame]; rfl)
    hidentity (by rw [hsequence]; decide)
  rw [hworkspace, hsequence] at hasOf
  exact ⟨L, snapshot, run_of_runWhere (runWhere_of_openedWith hopened), hasOf, hstate⟩

/-- A replay that has returned returns the same after every further run. -/
theorem asOf_stable (hL : Reachable world L) (hrun : Run world L L') {workspaceId : String}
    {target : ℤ} {snapshot : Snapshot}
    (h : asOf (routeReducers world) L workspaceId w target = .ok snapshot) :
    asOf (routeReducers world) L' workspaceId w target = .ok snapshot := by
  obtain ⟨row, hrequired, -⟩ := bind_eq_ok.mp h
  obtain ⟨hrow, rfl⟩ := requireWorkspace_eq_ok.mp hrequired
  have hchain := chained_of_reachable hL hrow
  obtain ⟨hversion, hversions, hidentity, k, rfl, hpage, hreached, hsequence, hhash, hfold⟩ :=
    (asOf_eq_ok_iff hchain hrow).mp h
  obtain ⟨⟨row', hrow', hsame⟩, hevents⟩ := continued_of_run hrow hrun
  have hchain' := chained_of_reachable (run_trans hL hrun) hrow'
  have hworkspace : row'.workspaceId = row.workspaceId := by rw [hsame]
  have hkind : row'.workflowKind = row.workflowKind := by rw [hsame]
  have hcolumns : versionColumns row' = versionColumns row := by rw [hsame]; rfl
  rw [hchain.currentSequence] at hreached
  have hlength := hevents.length_le
  have htake : (L'.eventsOf w).take k = (L.eventsOf w).take k := by
    obtain ⟨later, hlater⟩ := hevents
    rw [← hlater, List.take_append_of_le_length hreached]
  rw [← hworkspace]
  refine (asOf_eq_ok_iff hchain' hrow').mpr ⟨?_, hversions.trans hcolumns.symm, ?_, k, rfl, hpage,
    ?_, hsequence, ?_, ?_⟩
  · rw [hsame]
    exact hversion
  · rw [hsame]
    exact hidentity
  · rw [hchain'.currentSequence]
    exact hreached.trans hlength
  · rw [htake]
    exact hhash
  · rw [htake, hkind]
    exact hfold

theorem history_kept_message : ∃ L L' row', Run testWorld L L' ∧
    L.eventsOf "workflow:test" <+: L'.eventsOf "workflow:test" ∧
    L'.row? "workflow:test" = some row' ∧ row'.currentSequence = 1 ∧
    Chained testWorld row' (L'.eventsOf "workflow:test") := by
  obtain ⟨L, L', row, row', hL, hrun, -, hrow, hrow', -, -, -, hsequence⟩ := opened_message
  obtain ⟨hkept, found, hfound, -, hchain⟩ := history_kept hL hrun hrow
  cases hrow'.symm.trans hfound
  exact ⟨L, L', row', hrun, hkept, hrow', hsequence, hchain⟩

theorem asOf_stable_message : ∃ L L' snapshot, Run testWorld L L' ∧
    asOf (routeReducers testWorld) L "workspace:test" "workflow:test" 0 = .ok snapshot ∧
    asOf (routeReducers testWorld) L' "workspace:test" "workflow:test" 0 = .ok snapshot := by
  obtain ⟨L, L', row, -, hL, hrun, -, hrow, -, ⟨identityHash, hsame⟩, -⟩ := opened_message
  have hworkspace : row.workspaceId = "workspace:test" := by rw [hsame]; rfl
  have hnone : asOf (routeReducers testWorld) L "workspace:test" "workflow:test" 0 = .ok
      ⟨⟨0, none, openingProjection .pending⟩, versionColumns row, sampleColumns⟩ := by
    rw [← hworkspace]
    refine (asOf_eq_ok_iff (chained_of_reachable hL hrow) hrow).mpr ⟨?_, rfl, ?_, 0, rfl,
      Nat.zero_le _, Nat.zero_le _, rfl, rfl, ?_⟩
    all_goals
      rw [hsame]
      rfl
  exact ⟨L, L', _, hrun, hnone, asOf_stable hL hrun hnone⟩

end MindscapeLocalCore.DurableState.Replay
