import Mathlib.Data.List.Induction
import Mathlib.Data.List.Nodup
import Mathlib.Logic.Relation
import Mathlib.Order.Basic

/-!
A deterministic machine run over a list of events, and conditions that every
event of the list meets in the state that it finds.
-/

namespace MindscapeLocalCore.Library.Trace

variable {σ ε : Type} (next : σ → ε → σ)

def stateAfter (start : σ) (events : List ε) : σ := events.foldl next start

/-- Every event meets `ok` in the state that it finds. -/
def Along (ok : σ → ε → Prop) : σ → List ε → Prop
  | _, [] => True
  | s, event :: rest => ok s event ∧ Along ok (next s event) rest

instance instDecidableAlong {ok : σ → ε → Prop} [∀ s event, Decidable (ok s event)] :
    ∀ (start : σ) (events : List ε), Decidable (Along next ok start events)
  | _, [] => .isTrue trivial
  | s, event :: rest =>
      have : Decidable (Along next ok (next s event) rest) :=
        instDecidableAlong (next s event) rest
      inferInstanceAs (Decidable (ok s event ∧ Along next ok (next s event) rest))

@[simp] theorem stateAfter_nil (start : σ) : stateAfter next start [] = start := rfl

@[simp] theorem stateAfter_cons (start : σ) (event : ε) (rest : List ε) :
    stateAfter next start (event :: rest) = stateAfter next (next start event) rest := rfl

theorem stateAfter_append (start : σ) (before after : List ε) :
    stateAfter next start (before ++ after) =
      stateAfter next (stateAfter next start before) after := List.foldl_append ..

@[simp] theorem stateAfter_append_singleton (start : σ) (events : List ε) (event : ε) :
    stateAfter next start (events ++ [event]) =
      next (stateAfter next start events) event := by
  simp [stateAfter]

theorem along_append_singleton {ok : σ → ε → Prop} {start : σ} {events : List ε}
    {event : ε} :
    Along next ok start (events ++ [event]) ↔
      Along next ok start events ∧ ok (stateAfter next start events) event := by
  induction events generalizing start with
  | nil => simp [Along]
  | cons first rest ih =>
      simp only [List.cons_append, Along, ih, and_assoc]
      rfl

theorem along_congr {next} {ok ok' : σ → ε → Prop} (h : ∀ s event, ok s event ↔ ok' s event)
    {start : σ} {events : List ε} : Along next ok start events ↔ Along next ok' start events := by
  induction events generalizing start with
  | nil => rfl
  | cons event rest ih => exact and_congr (h start event) ih

theorem along_append {next} {ok : σ → ε → Prop} {start : σ} {before after : List ε} :
    Along next ok start (before ++ after) ↔
      Along next ok start before ∧ Along next ok (stateAfter next start before) after := by
  induction before generalizing start with
  | nil => exact (and_iff_right trivial).symm
  | cons first before ih => simp only [List.cons_append, Along, ih, stateAfter_cons, and_assoc]

theorem along_and {next} {ok ok' : σ → ε → Prop} {start : σ} {events : List ε} :
    Along next (fun s event => ok s event ∧ ok' s event) start events ↔
      Along next ok start events ∧ Along next ok' start events := by
  induction events generalizing start with
  | nil => exact (and_iff_left trivial).symm
  | cons event rest ih =>
      rw [Along, Along, Along, ih]
      exact and_and_and_comm

theorem ok_of_along {ok : σ → ε → Prop} {start : σ} {before rest : List ε} {event : ε}
    (h : Along next ok start (before ++ event :: rest)) :
    ok (stateAfter next start before) event := by
  induction before generalizing start with
  | nil => exact h.1
  | cons first before ih => exact ih h.2

theorem along_iff {next} {ok : σ → ε → Prop} {start : σ} {events : List ε} :
    Along next ok start events ↔ ∀ before event rest, events = before ++ event :: rest →
      ok (stateAfter next start before) event := by
  constructor
  · rintro h before event rest rfl
    exact ok_of_along next h
  · intro h
    induction events generalizing start with
    | nil => trivial
    | cons first later ih =>
        refine ⟨h [] first later rfl, ih fun before event rest hsplit => ?_⟩
        exact h (first :: before) event rest (congrArg (List.cons first) hsplit)

theorem invariant_of_along {next} {ok : σ → ε → Prop} {holds : σ → Prop} {start : σ}
    {events : List ε} (hstart : holds start)
    (hstep : ∀ s event, holds s → ok s event → holds (next s event))
    (h : Along next ok start events) : holds (stateAfter next start events) := by
  induction events generalizing start with
  | nil => exact hstart
  | cons event rest ih => exact ih (hstep start event hstart h.1) h.2

theorem exists_event_of_lost {next} (holds : σ → Prop) {start : σ} {events : List ε}
    (hstart : holds start) (hend : ¬ holds (stateAfter next start events)) :
    ∃ before event rest, events = before ++ event :: rest ∧
      holds (stateAfter next start before) ∧
      ¬ holds (next (stateAfter next start before) event) := by
  induction events generalizing start with
  | nil => exact absurd hstart hend
  | cons first later ih =>
      by_cases hnext : holds (next start first)
      · obtain ⟨before, event, rest, rfl, hbefore, hlost⟩ := ih hnext hend
        exact ⟨first :: before, event, rest, rfl, hbefore, hlost⟩
      · exact ⟨[], first, later, rfl, hstart, hnext⟩

/-- Where an event keeps a property exactly when it meets a condition, the property
holds at every moment exactly when every event meets the condition. -/
theorem holds_throughout_iff {next} {ok condition : σ → ε → Prop} {holds : σ → Prop}
    {start : σ} {events : List ε} (hstart : holds start)
    (hstep : ∀ s event, holds s → ok s event → (holds (next s event) ↔ condition s event))
    (h : Along next ok start events) :
    (∀ before rest, events = before ++ rest → holds (stateAfter next start before)) ↔
      Along next condition start events := by
  induction events generalizing start with
  | nil =>
      constructor
      · intro _
        trivial
      · intro _ before rest hsplit
        rw [(List.append_eq_nil_iff.mp hsplit.symm).1]
        exact hstart
  | cons event later ih =>
      have hnext := hstep start event hstart h.1
      constructor
      · intro hall
        have hheld : holds (next start event) := hall [event] later rfl
        refine ⟨hnext.mp hheld, (ih hheld h.2).mp ?_⟩
        rintro before rest rfl
        exact hall (event :: before) rest rfl
      · rintro ⟨hcondition, hlater⟩ before rest hsplit
        cases before with
        | nil => exact hstart
        | cons first before =>
            obtain ⟨rfl, rfl⟩ := List.cons.inj hsplit
            exact (ih (hnext.mpr hcondition) h.2).mpr hlater before rest rfl

/-- Where an event keeps a property exactly when it meets a condition and never brings
it back, the property holds at the end exactly when it held at the start and every event
meets the condition. The invariant may speak of the events that are to come. -/
theorem holds_iff_along {next} {condition : σ → ε → Prop} (holds : σ → Prop)
    (invariant : σ → List ε → Prop)
    (hnext : ∀ s event rest, invariant s (event :: rest) → invariant (next s event) rest)
    (hstep : ∀ s event rest, invariant s (event :: rest) →
      (holds (next s event) ↔ holds s ∧ condition s event)) {start : σ} {events : List ε}
    (h : invariant start events) :
    holds (stateAfter next start events) ↔ holds start ∧ Along next condition start events := by
  induction events generalizing start with
  | nil => exact (and_iff_left trivial).symm
  | cons event rest ih =>
      rw [stateAfter_cons, ih (hnext start event rest h), hstep start event rest h, and_assoc]
      rfl

end MindscapeLocalCore.Library.Trace

/-!
A loop given by what one round makes of its state: another state, or a result. It is run with
fuel; a measure that each round lowers says how much is enough.
-/

namespace MindscapeLocalCore.Library.FuelledLoop

open Relation

variable {σ ρ : Type*} {round : σ → σ ⊕ ρ} {fuel : ℕ} {s t : σ} {result : ρ}

/-- The result of a loop, where the fuel is enough for it. -/
def run (round : σ → σ ⊕ ρ) : ℕ → σ → Option ρ
  | 0, _ => none
  | fuel + 1, s =>
      match round s with
      | .inl t => run round fuel t
      | .inr result => some result

/-- The states that the loop goes through. -/
def Reaches (round : σ → σ ⊕ ρ) : σ → σ → Prop := ReflTransGen fun s t => round s = .inl t

theorem run_succ_of_inl (h : round s = .inl t) : run round (fuel + 1) s = run round fuel t := by
  rw [run, h]

theorem run_succ_of_inr (h : round s = .inr result) : run round (fuel + 1) s = some result := by
  rw [run, h]

theorem Reaches.invariant {Inv : σ → Prop} (h : Reaches round s t) (hs : Inv s)
    (hround : ∀ s t, Inv s → round s = .inl t → Inv t) : Inv t := by
  induction h with
  | refl => exact hs
  | tail _ hlast ih => exact hround _ _ ih hlast

theorem exists_run {Inv : σ → Prop} {measure : σ → ℕ} (hs : Inv s)
    (hround : ∀ s t, Inv s → round s = .inl t → Inv t ∧ measure t < measure s) :
    ∃ last result, Reaches round s last ∧ round last = .inr result ∧
      ∀ fuel, measure s < fuel → run round fuel s = some result := by
  induction hn : measure s using Nat.strongRecOn generalizing s with
  | _ n ih =>
      cases hnext : round s with
      | inr result =>
          refine ⟨s, result, .refl, hnext, fun fuel hfuel => ?_⟩
          obtain ⟨fuel, rfl⟩ := Nat.exists_eq_succ_of_ne_zero (Nat.ne_zero_of_lt hfuel)
          exact run_succ_of_inr hnext
      | inl t =>
          obtain ⟨ht, hless⟩ := hround s t hs hnext
          obtain ⟨last, result, hreach, hlast, hrun⟩ := ih _ (hn ▸ hless) ht rfl
          refine ⟨last, result, ReflTransGen.head hnext hreach, hlast, fun fuel hfuel => ?_⟩
          obtain ⟨fuel, rfl⟩ := Nat.exists_eq_succ_of_ne_zero (Nat.ne_zero_of_lt hfuel)
          rw [Nat.succ_eq_add_one, run_succ_of_inl hnext]
          exact hrun fuel (by omega)

theorem Reaches.total (ht : Reaches round s t) {u : σ} (hu : Reaches round s u) :
    Reaches round t u ∨ Reaches round u t := by
  refine ReflTransGen.total_of_right_unique ?_ ht hu
  intro s t u ht hu
  rw [ht] at hu
  exact Sum.inl.inj hu

theorem Reaches.eq_of_last (h : Reaches round s t) (hs : round s = .inr result) : t = s := by
  rcases ReflTransGen.cases_head h with rfl | ⟨next, hnext, -⟩
  · rfl
  · rw [hs] at hnext
    cases hnext

theorem Reaches.to_last {last : σ} (ht : Reaches round s t) (hlast : Reaches round s last)
    (hend : round last = .inr result) : Reaches round t last := by
  rcases ht.total hlast with h | h
  · exact h
  · rw [h.eq_of_last hend]
    exact .refl

end MindscapeLocalCore.Library.FuelledLoop

/-!
Runs in which what is stored has an id that some event drew. Where no id is drawn twice, a
new id is not in use, and what is lost does not come back.
-/

namespace MindscapeLocalCore.Library.FreshIds

open Trace

variable {σ ε ι : Type} {next : σ → ε → σ} {stored : σ → ι → Prop} {drawn : ε → Option ι}
  {invariant : σ → Prop}

/-- An event that draws no id in use keeps the invariant, and what it leaves stored was stored
before, or it drew the id. -/
structure DrawsIds (next : σ → ε → σ) (stored : σ → ι → Prop) (drawn : ε → Option ι)
    (invariant : σ → Prop) : Prop where
  keeps : ∀ s event, invariant s → (∀ id, drawn event = some id → ¬ stored s id) →
    invariant (next s event)
  stores : ∀ s event id, invariant s → stored (next s event) id →
    stored s id ∨ drawn event = some id

variable {start : σ} {events before later rest : List ε} {event : ε} {id : ι}

theorem nodup_before (h : ((before ++ rest).filterMap drawn).Nodup) :
    (before.filterMap drawn).Nodup := by
  rw [List.filterMap_append] at h
  exact (List.nodup_append'.mp h).1

theorem not_drawn_later (h : ((before ++ later).filterMap drawn).Nodup)
    (hbefore : id ∈ before.filterMap drawn) : ∀ event ∈ later, drawn event ≠ some id := by
  intro event hevent hdrawn
  rw [List.filterMap_append] at h
  exact (List.nodup_append'.mp h).2.2 hbefore (List.mem_filterMap.mpr ⟨event, hevent, hdrawn⟩)

theorem invariant_and_stored (h : DrawsIds next stored drawn invariant)
    (hstart : invariant start) (hfresh : ∀ id ∈ events.filterMap drawn, ¬ stored start id)
    (hnodup : (events.filterMap drawn).Nodup) :
    invariant (stateAfter next start events) ∧
      ∀ id, stored (stateAfter next start events) id →
        stored start id ∨ id ∈ events.filterMap drawn := by
  induction events using List.reverseRecOn with
  | nil => exact ⟨hstart, fun id hstored => .inl hstored⟩
  | append_singleton events event ih =>
      rw [List.filterMap_append] at hfresh ⊢
      obtain ⟨hinvariant, hstored⟩ :=
        ih (fun id hid => hfresh id (List.mem_append_left _ hid)) (nodup_before hnodup)
      have hdrawn : ∀ id, drawn event = some id → id ∈ [event].filterMap drawn := fun id hid =>
        List.mem_filterMap.mpr ⟨event, List.mem_singleton_self event, hid⟩
      rw [stateAfter_append_singleton]
      constructor
      · refine h.keeps _ event hinvariant fun id hid hold => ?_
        rcases hstored id hold with hstart | hbefore
        · exact hfresh id (List.mem_append_right _ (hdrawn id hid)) hstart
        · exact not_drawn_later hnodup hbefore event (List.mem_singleton_self event) hid
      · intro id hafter
        rcases h.stores _ event id hinvariant hafter with hold | hnew
        · exact (hstored id hold).imp_right (List.mem_append_left _)
        · exact .inr (List.mem_append_right _ (hdrawn id hnew))

theorem invariant_and_drawn (h : DrawsIds next stored drawn invariant)
    (hstart : invariant start) (hnone : ∀ id, ¬ stored start id)
    (hnodup : (events.filterMap drawn).Nodup) :
    invariant (stateAfter next start events) ∧
      ∀ id, stored (stateAfter next start events) id → id ∈ events.filterMap drawn := by
  obtain ⟨hinvariant, hstored⟩ :=
    invariant_and_stored h hstart (fun id _ => hnone id) hnodup
  exact ⟨hinvariant, fun id hid => (hstored id hid).resolve_left (hnone id)⟩

theorem not_stored_of_drawn (h : DrawsIds next stored drawn invariant)
    (hstart : invariant start) (hnone : ∀ id, ¬ stored start id)
    (hnodup : ((before ++ event :: rest).filterMap drawn).Nodup) (hid : drawn event = some id) :
    ¬ stored (stateAfter next start before) id := fun hstored =>
  not_drawn_later hnodup
    ((invariant_and_drawn h hstart hnone (nodup_before hnodup)).2 id hstored) event
    List.mem_cons_self hid

theorem kept_later {P : σ → Prop} (h : DrawsIds next stored drawn invariant)
    (hstart : invariant start) (hnone : ∀ id, ¬ stored start id)
    (hnodup : ((before ++ later).filterMap drawn).Nodup)
    (hused : id ∈ before.filterMap drawn)
    (hP : ∀ s, ∀ event ∈ later, invariant s → drawn event ≠ some id → P s → P (next s event))
    (hbefore : P (stateAfter next start before)) :
    P (stateAfter next start (before ++ later)) := by
  induction later using List.reverseRecOn with
  | nil => rwa [List.append_nil]
  | append_singleton later event ih =>
      rw [← List.append_assoc] at hnodup ⊢
      rw [stateAfter_append_singleton]
      have hlast : event ∈ later ++ [event] := List.mem_append_right _ (List.mem_singleton_self _)
      refine hP _ event hlast ?_ ?_ (ih (nodup_before hnodup) fun s event hevent => ?_)
      · exact (invariant_and_drawn h hstart hnone (nodup_before hnodup)).1
      · rw [List.append_assoc] at hnodup
        exact not_drawn_later hnodup hused event hlast
      · exact hP s event (List.mem_append_left _ hevent)

theorem not_stored_later (h : DrawsIds next stored drawn invariant)
    (hstart : invariant start) (hnone : ∀ id, ¬ stored start id)
    (hnodup : ((before ++ later).filterMap drawn).Nodup)
    (hused : id ∈ before.filterMap drawn) (hgone : ¬ stored (stateAfter next start before) id) :
    ¬ stored (stateAfter next start (before ++ later)) id := by
  refine kept_later (P := fun s => ¬ stored s id) h hstart hnone hnodup hused ?_ hgone
  intro s event _ hinvariant hdrawn habsent hstored
  exact (h.stores s event id hinvariant hstored).elim habsent hdrawn

end MindscapeLocalCore.Library.FreshIds
