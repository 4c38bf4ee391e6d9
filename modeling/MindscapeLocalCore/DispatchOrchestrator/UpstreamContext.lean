import MindscapeLocalCore.DispatchOrchestrator.Execution
import MindscapeLocalCore.Library.ItemDict
import MindscapeLocalCore.Library.Json

/-!
The results of dependencies that a phase is dispatched with. They are written into its action item,
which phases of one name share, and which is never cleared.
-/

namespace MindscapeLocalCore.DispatchOrchestrator.UpstreamContext

open Library.ItemDict
open Library.Json (Dict)
open Execution

/-- An `_upstream_context`: the results of dependencies by their ids. -/
abbrev Context := List (String × Dict)

/-- What `dispatch_phase` reads and writes of an action item beside its title. -/
structure ActionItem where
  title : String
  upstreamContext : Option Context
  landingStatus : String

/-- `{}`, for a phase without an action item. -/
def noItem : ActionItem where
  title := ""
  upstreamContext := none
  landingStatus := ""

/-- `items_by_title`: the last item of a title. -/
def itemsByTitle (actionItems : List ActionItem) (title : String) : Option ActionItem :=
  if title = "" then none else actionItems.reverse.find? fun item => item.title = title

def upstreamContext (results : List (String × Dict)) (dependencies : List String) : Context :=
  dependencies.foldl
    (fun context dep =>
      match getItem dep results with
      | none => context
      | some result => if result.isEmpty then context else setItem dep result context) []

/-- `action_item["_upstream_context"] = upstream_context`, if there is any. -/
def ActionItem.receive (item : ActionItem) (context : Context) : ActionItem :=
  if context.isEmpty then item else { item with upstreamContext := some context }

/-- A landing status with which nothing is dispatched. -/
def ActionItem.Blocked (item : ActionItem) : Prop :=
  item.landingStatus ∈ ["policy_blocked", "dispatch_error", "boundary_violation"]

instance (item : ActionItem) : Decidable item.Blocked := inferInstanceAs (Decidable (_ ∈ _))

/-- A dispatch that is on its way: with a shared item, known by its title, or with its own. -/
structure InFlight where
  pid : String
  title : Option String
  item : ActionItem

/-- A phase with results of dependencies had the item of a title. -/
structure Entry where
  title : String
  own : Context

structure Dispatch where
  pid : String
  title : Option String
  carried : Context
  own : Context
  /-- what phases had been given, with the same item, before -/
  entries : List Entry

/-- The names of the phases and the action items of a task. -/
structure Setting where
  name : String → String
  actionItems : List ActionItem
  skipPolicy : String

/-- The walk between its waves, with the results and the action items, and with what the dispatches
of a wave have come to. -/
structure State where
  walk : Run
  results : List (String × Dict)
  items : String → Option ActionItem
  waiting : List String
  inFlight : List InFlight
  entries : List Entry
  dispatched : List Dispatch

inductive Event where
  /-- a dispatch runs up to where it may wait; the registry may know it already -/
  | enter (pid : String) (registered : Bool)
  /-- the executor is given the action item -/
  | read (i : ℕ)
  /-- a dispatch ends, with the landing status that it sets -/
  | land (i : ℕ) (status : String)
  /-- a dispatch raises before it is sent -/
  | raise (i : ℕ)
  /-- all dispatches of the wave have ended -/
  | settle (outcome : String → Dispatched) (result : String → Option Dict)
      (injected : List PhaseIR)

variable (setting : Setting)

def State.own (s : State) (pid : String) : Context :=
  upstreamContext s.results (((s.walk.phaseMap pid).map PhaseIR.dependencies).getD [])

/-- `dispatch_phase` with a shared item, up to where it may wait. -/
def State.enterShared (s : State) (pid title : String) (item : ActionItem) : State :=
  let received := item.receive (s.own pid)
  { s with
    items := Function.update s.items title (some received)
    entries := s.entries ++ [⟨title, s.own pid⟩]
    inFlight := if received.Blocked then s.inFlight else s.inFlight ++ [⟨pid, some title, received⟩] }

def State.enterOwn (s : State) (pid : String) : State :=
  { s with inFlight := s.inFlight ++ [⟨pid, none, noItem.receive (s.own pid)⟩] }

def State.itemOf (s : State) (flight : InFlight) : ActionItem :=
  match flight.title with
  | none => flight.item
  | some title => (s.items title).getD flight.item

/-- `action_item["landing_status"] = status` -/
def State.setLanding (s : State) (flight : InFlight) (status : String) : State :=
  match flight.title with
  | none => s
  | some title => { s with
      items := Function.update s.items title
        ((s.items title).map fun item => { item with landingStatus := status }) }

def recordResults (outcome : String → Dispatched) (result : String → Option Dict)
    (ready : List String) (results : List (String × Dict)) : List (String × Dict) :=
  ready.foldl
    (fun results pid =>
      match (outcome pid).result, result pid with
      | .returned status, some value =>
          if status = "completed" then setItem pid value results else results
      | _, _ => results) results

def State.settle (s : State) (outcome : String → Dispatched) (result : String → Option Dict)
    (injected : List PhaseIR) : State :=
  let walk := supervise injected (wave setting.skipPolicy outcome s.walk)
  { s with
    walk := walk
    results := recordResults outcome result s.walk.ready s.results
    waiting := walk.ready }

def step (s : State) : Event → Option State
  | .enter pid registered =>
      if pid ∈ s.waiting then
        let s := { s with waiting := s.waiting.erase pid }
        if registered then
          match s.items (setting.name pid) with
          | none => some (s.enterOwn pid)
          | some item => some (s.enterShared pid (setting.name pid) item)
        else some s
      else none
  | .read i =>
      match s.inFlight[i]? with
      | none => none
      | some flight => some { s with
          dispatched := s.dispatched ++ [{
            pid := flight.pid
            title := flight.title
            carried := (s.itemOf flight).upstreamContext.getD []
            own := s.own flight.pid
            entries := s.entries }] }
  | .land i status =>
      match s.inFlight[i]? with
      | none => none
      | some flight => some { s.setLanding flight status with inFlight := s.inFlight.eraseIdx i }
  | .raise i =>
      match s.inFlight[i]? with
      | none => none
      | some _ => some { s with inFlight := s.inFlight.eraseIdx i }
  | .settle outcome result injected =>
      if s.waiting = [] ∧ s.inFlight = [] then some (s.settle setting outcome result injected)
      else none

def start (phases : List PhaseIR) : State where
  walk := Execution.start phases
  results := []
  items := itemsByTitle setting.actionItems
  waiting := (Execution.start phases).ready
  inFlight := []
  entries := []
  dispatched := []

inductive Reachable (phases : List PhaseIR) : State → Prop
  | start : Reachable phases (start setting phases)
  | step {s s' : State} {event : Event} (before : Reachable phases s)
      (next : step setting s event = some s') : Reachable phases s'

/-! ### The last results that an item was given -/

/-- The results of the last phase that had any, or what the item came with. -/
def latest (initial : String → Option ActionItem) (entries : List Entry) (title : String) :
    Option Context :=
  match entries.reverse.find? fun entry => entry.title = title ∧ ¬ entry.own.isEmpty with
  | some entry => some entry.own
  | none => (initial title).bind ActionItem.upstreamContext

def SameDict {κ α : Type} [DecidableEq κ] (a b : List (κ × α)) : Prop :=
  ∀ k, getItem k a = getItem k b

/-- Of the phases with the item of the dispatch, the last that had results of dependencies had the
same as this one; where none had any, the item came without. -/
def Undisturbed (d : Dispatch) : Prop :=
  ∀ title, d.title = some title →
    SameDict ((latest (itemsByTitle setting.actionItems) d.entries title).getD []) d.own

variable {setting} {phases : List PhaseIR} {s s' : State} {event : Event}

theorem receive_upstreamContext {item : ActionItem} {context : Context} :
    (item.receive context).upstreamContext =
      if context.isEmpty then item.upstreamContext else some context := by
  rw [ActionItem.receive]
  split
  · rfl
  · rfl

theorem latest_append {initial : String → Option ActionItem} {entries : List Entry}
    {title : String} {own : Context} (other : String) :
    latest initial (entries ++ [⟨title, own⟩]) other =
      if title = other ∧ ¬ own.isEmpty then some own else latest initial entries other := by
  rw [latest, List.reverse_append, List.reverse_singleton, List.singleton_append, List.find?_cons]
  by_cases h : title = other ∧ ¬ own.isEmpty
  · rw [if_pos h, decide_eq_true h]
  · rw [if_neg h, decide_eq_false h]
    rfl

/-! ### What every step keeps -/

/-- Items have the last results that they were given, and a dispatch with an item of its own has
its own results. -/
structure Valid (setting : Setting) (s : State) : Prop where
  items : ∀ title item, s.items title = some item →
    item.upstreamContext = latest (itemsByTitle setting.actionItems) s.entries title
  shared : ∀ flight ∈ s.inFlight, ∀ title, flight.title = some title →
    (s.items title).isSome = true
  own : ∀ flight ∈ s.inFlight, flight.title = none →
    flight.item.upstreamContext.getD [] = s.own flight.pid
  dispatched : ∀ d ∈ s.dispatched, d.carried =
    match d.title with
    | none => d.own
    | some title => (latest (itemsByTitle setting.actionItems) d.entries title).getD []

theorem valid_start : Valid setting (start setting phases) where
  items title item h := by
    show _ = (itemsByTitle setting.actionItems title).bind ActionItem.upstreamContext
    rw [show itemsByTitle setting.actionItems title = some item from h]
    rfl
  shared flight h := by cases h
  own flight h := by cases h
  dispatched d h := by cases h

theorem Valid.enterOwn (h : Valid setting s) (pid : String) : Valid setting (s.enterOwn pid) where
  items := h.items
  shared flight hflight title htitle := by
    rcases List.mem_append.mp hflight with hold | hnew
    · exact h.shared flight hold title htitle
    · rw [List.mem_singleton.mp hnew] at htitle
      cases htitle
  own flight hflight htitle := by
    rcases List.mem_append.mp hflight with hold | hnew
    · exact h.own flight hold htitle
    · rw [List.mem_singleton.mp hnew]
      show (noItem.receive (s.own pid)).upstreamContext.getD [] = s.own pid
      rw [receive_upstreamContext]
      split
      · rename_i hempty
        rw [List.isEmpty_iff.mp hempty]
        rfl
      · rfl
  dispatched := h.dispatched

theorem Valid.enterShared (h : Valid setting s) {pid title : String} {item : ActionItem}
    (hitem : s.items title = some item) : Valid setting (s.enterShared pid title item) where
  items other found hfound := by
    show found.upstreamContext =
      latest (itemsByTitle setting.actionItems) (s.entries ++ [⟨title, s.own pid⟩]) other
    rw [latest_append]
    by_cases hother : other = title
    · subst hother
      have hreceived : some (item.receive (s.own pid)) = some found := by
        rw [← hfound]
        exact (Function.update_self other _ s.items).symm
      rw [← Option.some.inj hreceived, receive_upstreamContext, h.items other item hitem]
      by_cases hempty : (s.own pid).isEmpty = true
      · rw [if_pos hempty, if_neg (fun hboth => hboth.2 hempty)]
      · rw [if_neg hempty, if_pos ⟨rfl, hempty⟩]
    · have hkept : s.items other = some found := by
        rw [← hfound]
        exact (Function.update_of_ne hother _ s.items).symm
      rw [if_neg (fun hboth => hother hboth.1.symm)]
      exact h.items other found hkept
  shared flight hflight other htitle := by
    show (Function.update s.items title (some (item.receive (s.own pid))) other).isSome = true
    by_cases hother : other = title
    · rw [hother, Function.update_self]
      rfl
    · rw [Function.update_of_ne hother]
      have hmem : flight ∈ s.inFlight ∨ flight.title = some title := by
        rw [State.enterShared] at hflight
        dsimp only at hflight
        split at hflight
        · exact .inl hflight
        · rcases List.mem_append.mp hflight with hold | hnew
          · exact .inl hold
          · exact .inr (by rw [List.mem_singleton.mp hnew])
      rcases hmem with hold | hsame
      · exact h.shared flight hold other htitle
      · rw [hsame] at htitle
        exact absurd (Option.some.inj htitle).symm hother
  own flight hflight htitle := by
    rw [State.enterShared] at hflight
    dsimp only at hflight
    split at hflight
    · exact h.own flight hflight htitle
    · rcases List.mem_append.mp hflight with hold | hnew
      · exact h.own flight hold htitle
      · rw [List.mem_singleton.mp hnew] at htitle
        cases htitle
  dispatched := h.dispatched

theorem Valid.setLanding (h : Valid setting s) (flight : InFlight) (status : String) :
    Valid setting (s.setLanding flight status) := by
  rw [State.setLanding]
  split
  · exact h
  · rename_i title _
    have hitems : ∀ other, ((Function.update s.items title ((s.items title).map fun item =>
        { item with landingStatus := status })) other).map ActionItem.upstreamContext =
          (s.items other).map ActionItem.upstreamContext := by
      intro other
      by_cases hother : other = title
      · rw [hother, Function.update_self, Option.map_map]
        rfl
      · rw [Function.update_of_ne hother]
    refine ⟨fun other item hitem => ?_, fun flight hflight other htitle => ?_, h.own, h.dispatched⟩
    · have hcontext := hitems other
      rw [show Function.update s.items title _ other = some item from hitem] at hcontext
      obtain ⟨before, hbefore, hsame⟩ := Option.map_eq_some_iff.mp hcontext.symm
      rw [← hsame]
      exact h.items other before hbefore
    · have hsome := congrArg Option.isSome (hitems other)
      rw [Option.isSome_map, Option.isSome_map] at hsome
      exact hsome.trans (h.shared flight hflight other htitle)

theorem Valid.setInFlight (h : Valid setting s) {inFlight : List InFlight}
    (hsub : ∀ flight ∈ inFlight, flight ∈ s.inFlight) :
    Valid setting { s with inFlight := inFlight } where
  items := h.items
  shared flight hflight := h.shared flight (hsub flight hflight)
  own flight hflight := h.own flight (hsub flight hflight)
  dispatched := h.dispatched

theorem Valid.read (h : Valid setting s) {flight : InFlight} (hflight : flight ∈ s.inFlight) :
    Valid setting { s with
      dispatched := s.dispatched ++ [{
        pid := flight.pid
        title := flight.title
        carried := (s.itemOf flight).upstreamContext.getD []
        own := s.own flight.pid
        entries := s.entries }] } where
  items := h.items
  shared := h.shared
  own := h.own
  dispatched d hd := by
    rcases List.mem_append.mp hd with hold | hnew
    · exact h.dispatched d hold
    · obtain rfl := List.mem_singleton.mp hnew
      show (s.itemOf flight).upstreamContext.getD [] = _
      rw [State.itemOf]
      cases htitle : flight.title with
      | none => exact h.own flight hflight htitle
      | some title =>
          obtain ⟨item, hitem⟩ := Option.isSome_iff_exists.mp (h.shared flight hflight title htitle)
          show ((s.items title).getD flight.item).upstreamContext.getD [] =
            (latest (itemsByTitle setting.actionItems) s.entries title).getD []
          rw [hitem, ← h.items title item hitem]
          rfl

theorem Valid.settle (h : Valid setting s) (hended : s.inFlight = [])
    (outcome : String → Dispatched) (result : String → Option Dict) (injected : List PhaseIR) :
    Valid setting (s.settle setting outcome result injected) where
  items := h.items
  shared := h.shared
  own flight hflight := by
    rw [show (s.settle setting outcome result injected).inFlight = s.inFlight from rfl,
      hended] at hflight
    cases hflight
  dispatched := h.dispatched

theorem Valid.setWaiting (h : Valid setting s) (waiting : List String) :
    Valid setting { s with waiting := waiting } :=
  ⟨h.items, h.shared, h.own, h.dispatched⟩

theorem Valid.step (h : Valid setting s) (hstep : step setting s event = some s') :
    Valid setting s' := by
  cases event with
  | enter pid registered =>
      rw [UpstreamContext.step] at hstep
      split at hstep
      · have hwaiting := h.setWaiting (s.waiting.erase pid)
        dsimp only at hstep
        split at hstep
        · split at hstep
          · obtain rfl := Option.some.inj hstep
            exact hwaiting.enterOwn pid
          · rename_i item hitem
            obtain rfl := Option.some.inj hstep
            exact hwaiting.enterShared hitem
        · obtain rfl := Option.some.inj hstep
          exact hwaiting
      · cases hstep
  | read i =>
      rw [UpstreamContext.step] at hstep
      split at hstep
      · cases hstep
      · rename_i flight hflight
        obtain rfl := Option.some.inj hstep
        exact h.read (List.mem_of_getElem? hflight)
  | land i status =>
      rw [UpstreamContext.step] at hstep
      split at hstep
      · cases hstep
      · rename_i flight hflight
        obtain rfl := Option.some.inj hstep
        refine (h.setLanding flight status).setInFlight fun other hother => ?_
        have hkept : (s.setLanding flight status).inFlight = s.inFlight := by
          rw [State.setLanding]
          split
          · rfl
          · rfl
        rw [hkept]
        exact List.mem_of_mem_eraseIdx hother
  | raise i =>
      rw [UpstreamContext.step] at hstep
      split at hstep
      · cases hstep
      · obtain rfl := Option.some.inj hstep
        exact h.setInFlight fun other hother => List.mem_of_mem_eraseIdx hother
  | settle outcome result injected =>
      rw [UpstreamContext.step] at hstep
      split at hstep
      · rename_i hended
        obtain rfl := Option.some.inj hstep
        exact h.settle hended.2 outcome result injected
      · cases hstep

theorem valid_of_reachable (hreach : Reachable setting phases s) : Valid setting s := by
  induction hreach with
  | start => exact valid_start
  | step _ hstep ih => exact ih.step hstep

/-- In every run, whatever its phases, outcomes and injected phases and however the dispatches of a
wave interleave, all phases are dispatched with exactly the results of their own dependencies if and
only if all of them are undisturbed. -/
theorem dispatched_with_own_iff (setting : Setting) (phases : List PhaseIR) (s : State)
    (hreach : Reachable setting phases s) :
    ∀ d ∈ s.dispatched, SameDict d.carried d.own ↔ Undisturbed setting d := by
  intro d hd
  have hcarried := (valid_of_reachable hreach).dispatched d hd
  rw [Undisturbed]
  cases htitle : d.title with
  | none =>
      rw [htitle] at hcarried
      refine iff_of_true (fun k => ?_) fun title htitle => ?_
      · rw [show d.carried = d.own from hcarried]
      · cases htitle
  | some title =>
      rw [htitle] at hcarried
      rw [show d.carried = (latest (itemsByTitle setting.actionItems) d.entries title).getD [] from
        hcarried]
      constructor
      · rintro hsame other hother
        rw [← Option.some.inj hother]
        exact hsame
      · intro hundisturbed
        exact hundisturbed title rfl

/-! ### Two phases with one action item -/

def pendingPhase (id : String) (dependsOn : Option (List String)) : PhaseIR where
  id := id
  status := .pending
  dependsOn := dependsOn
  rollbackStrategy := none

/-- `b` waits for `a` and `d` for `c`. -/
def twoPairs : List PhaseIR :=
  [pendingPhase "a" none, pendingPhase "c" none, pendingPhase "b" (some ["a"]),
    pendingPhase "d" (some ["c"])]

/-- `b` and `d` have the name of one action item. -/
def sharedItem : Setting where
  name pid := if pid = "b" ∨ pid = "d" then "write the report" else pid
  actionItems := [⟨"write the report", none, ""⟩]
  skipPolicy := "skip"

/-- In the second wave `d` begins before the executor is given the item of `b`. -/
def sharedEvents : List Event :=
  [.enter "a" true, .enter "c" true, .read 0, .land 0 "launched", .read 0, .land 0 "launched",
    .settle (fun _ => ⟨.returned "completed", .completed, none⟩)
      (fun pid => some [("execution_id", .str pid)]) [],
    .enter "b" true, .enter "d" true, .read 0]

theorem reachable_of_foldlM {events : List Event} (hreach : Reachable setting phases s)
    (h : events.foldlM (step setting) s = some s') : Reachable setting phases s' := by
  induction events generalizing s with
  | nil =>
      obtain rfl := Option.some.inj h
      exact hreach
  | cons event rest ih =>
      obtain ⟨middle, hmiddle, hrest⟩ := Option.bind_eq_some_iff.mp h
      exact ih (hreach.step hmiddle) hrest

def leaks (s : State) : Bool :=
  s.dispatched.any fun d =>
    d.pid == "b" && (getItem "c" d.carried).isSome && (getItem "c" d.own).isNone

theorem exists_leak : ∃ s, Reachable sharedItem twoPairs s ∧ ∃ d ∈ s.dispatched, d.pid = "b" ∧
    ¬ SameDict d.carried d.own := by
  have hrun : ((sharedEvents.foldlM (step sharedItem) (start sharedItem twoPairs)).any leaks) =
      true := by decide +kernel
  obtain ⟨s, hs, hleaks⟩ := (Option.any_eq_true _ _).mp hrun
  obtain ⟨d, hd, hboth⟩ := List.any_eq_true.mp hleaks
  obtain ⟨hfirst, hown⟩ := Bool.and_eq_true_iff.mp hboth
  obtain ⟨hpid, hcarried⟩ := Bool.and_eq_true_iff.mp hfirst
  refine ⟨s, reachable_of_foldlM .start hs, d, hd, eq_of_beq hpid, fun hsame => ?_⟩
  rw [hsame "c", Option.isNone_iff_eq_none.mp hown] at hcarried
  cases hcarried

/-- Phase `b` is dispatched with the results of the dependency of `d`. -/
theorem shared_item_leaks : ¬ ∀ s, Reachable sharedItem twoPairs s →
    ∀ d ∈ s.dispatched, SameDict d.carried d.own := by
  intro hexact
  obtain ⟨s, hreach, d, hd, -, hleak⟩ := exists_leak
  exact hleak (hexact s hreach d hd)

theorem shared_item_disturbed : ∃ s, Reachable sharedItem twoPairs s ∧ ∃ d ∈ s.dispatched,
    d.pid = "b" ∧ ¬ Undisturbed sharedItem d := by
  obtain ⟨s, hreach, d, hd, hpid, hleak⟩ := exists_leak
  refine ⟨s, hreach, d, hd, hpid, fun hundisturbed => hleak ?_⟩
  exact (dispatched_with_own_iff sharedItem twoPairs s hreach d hd).mpr hundisturbed

end MindscapeLocalCore.DispatchOrchestrator.UpstreamContext
