import MindscapeLocalCore.DurableState.ExecutionRuns
import MindscapeLocalCore.DurableState.IterationDocuments

/-!
What the events of a product iteration do to its projection.
-/

namespace MindscapeLocalCore.DurableState.IterationProjections

open Library Library.Guarded Library.Json Library.JsonText CanonicalJson Errors
open ExecutionRuns Facade IterationDocuments ProductIterationContract Progress Records Reducers
open Samples Transitions

/-! ## Projections of an iteration -/

def bookkept (state : Dict) (event : EventRow) : Dict :=
  (state.set "last_sequence" (Json.nat event.sequence)).set
    "last_event_hash" (.str event.eventHash)

theorem within_bookkept {b : Nat} {state : Dict} {event : EventRow}
    (h : Within b (.obj state)) (hsequence : event.sequence < 10 ^ 6)
    (hhash : IsDigest event.eventHash) : Within (b + 130) (.obj (bookkept state event)) := by
  have hkeys : quoteSize "last_sequence" = 15 ∧ quoteSize "last_event_hash" = 17 := by decide
  refine within_mono (within_set (within_set h (within_nat hsequence))
    (within_digest hhash)) ?_
  omega

/-- What the operations read from the projection of an iteration. -/
structure Knows (state definition frontier : Dict) (ids : List Json) : Prop where
  current : ∃ current, state.get? "current_state" = some current
  definition : state.get? "definition" = some (.obj definition)
  frontier : state.get? "evidence_frontier" = some (.obj frontier)
  accepted : state.get? "accepted_observation_ids" = some (.arr ids)
  count : state.get? "accepted_observation_count" = some (Json.nat ids.length)
  enrollments : state.get? "enrollment_ids" = some (.arr [])
  attempts : state.get? "evaluation_attempt_count" = some (Json.nat 0)

variable {world : World} {state definition frontier : Dict} {accepted : List Json}
  {event : EventRow} {b : Nat}

theorem knows_bookkept (h : Knows state definition frontier accepted) (event : EventRow) :
    Knows (bookkept state event) definition frontier accepted where
  current := by simpa [bookkept, Dict.get?_set] using h.current
  definition := by simpa [bookkept, Dict.get?_set] using h.definition
  frontier := by simpa [bookkept, Dict.get?_set] using h.frontier
  accepted := by simpa [bookkept, Dict.get?_set] using h.accepted
  count := by simpa [bookkept, Dict.get?_set] using h.count
  enrollments := by simpa [bookkept, Dict.get?_set] using h.enrollments
  attempts := by simpa [bookkept, Dict.get?_set] using h.attempts

theorem knows_set (h : Knows state definition frontier accepted) {k : String} (v : Json)
    (hk : k ∉ ["definition", "evidence_frontier", "accepted_observation_ids",
      "accepted_observation_count", "enrollment_ids", "evaluation_attempt_count"]) :
    Knows (state.set k v) definition frontier accepted := by
  simp only [List.mem_cons, List.not_mem_nil, or_false, not_or] at hk
  obtain ⟨hdefinition, hfrontier, haccepted, hcount, henrollments, hattempts⟩ := hk
  constructor
  case current =>
    by_cases hcurrent : "current_state" = k
    · exact ⟨v, by simp [hcurrent]⟩
    · simpa [Dict.get?_set, hcurrent] using h.current
  case definition => simpa [Dict.get?_set, Ne.symm hdefinition] using h.definition
  case frontier => simpa [Dict.get?_set, Ne.symm hfrontier] using h.frontier
  case accepted => simpa [Dict.get?_set, Ne.symm haccepted] using h.accepted
  case count => simpa [Dict.get?_set, Ne.symm hcount] using h.count
  case enrollments => simpa [Dict.get?_set, Ne.symm henrollments] using h.enrollments
  case attempts => simpa [Dict.get?_set, Ne.symm hattempts] using h.attempts

/-! ## What the events do to it -/

theorem reduce_defined {payloadDefinition : Dict}
    (hcurrent : ∃ current, state.get? "current_state" = some current)
    (hstate : Within b (.obj state)) (htype : event.eventType = .productIterationDefined)
    (hpayload : event.payload = [("definition", .obj payloadDefinition)])
    (hfrontier : payloadDefinition.get? "evidence_frontier" = some (.obj startFrontier))
    (hdefinition : Within 3200 (.obj payloadDefinition))
    (hsequence : event.sequence < 10 ^ 6) (hhash : IsDigest event.eventHash) :
    ∃ state', reduceV1 world state event = .ok state' ∧
      Knows state' payloadDefinition startFrontier [] ∧
      Within (b + 3900) (.obj state') := by
  have hmember : item event.payload "definition" = .ok (.obj payloadDefinition) := by
    rw [hpayload]
    rfl
  have htyped : typedReceipt event.payload = .ok [] := by
    rw [hpayload]
    rfl
  have hreduce : reduceV1 world state event = .ok (bookkept
      (((((((state.set "definition" (.obj payloadDefinition)).set
        "evidence_frontier" (.obj startFrontier)).set "enrollment_ids" (.arr [])).set
        "accepted_observation_ids" (.arr [])).set
        "accepted_observation_count" (Json.nat 0)).set
        "adapter_refs_by_arm" (.obj [])).set
        "evaluation_attempt_count" (Json.nat 0)) event) := by
    simp only [reduceV1, reduceEvent, htype, reduceDefinition, hmember, ok_bind, asDict,
      item_eq_ok.mpr hfrontier, pure_eq_ok, htyped]
    rfl
  have hkeys : quoteSize "definition" = 12 ∧ quoteSize "evidence_frontier" = 19 ∧
      quoteSize "enrollment_ids" = 16 ∧ quoteSize "accepted_observation_ids" = 26 ∧
      quoteSize "accepted_observation_count" = 28 ∧
      quoteSize "adapter_refs_by_arm" = 21 ∧
      quoteSize "evaluation_attempt_count" = 26 := by decide
  have hstart : Within 150 (.obj startFrontier) := by
    simp only [Within, ← byteSize_eq]
    decide
  have hempty : Within 2 (.arr []) ∧ Within 2 (.obj []) :=
    ⟨⟨Nat.le_refl _, Nat.le_refl _⟩, ⟨Nat.le_refl _, Nat.le_refl _⟩⟩
  refine ⟨_, hreduce, knows_bookkept ?_ event, ?_⟩
  · constructor
    case current => simpa [Dict.get?_set] using hcurrent
    all_goals simp [Dict.get?_set]
  · refine within_mono (within_bookkept (within_set (within_set (within_set (within_set
      (within_set (within_set (within_set hstate hdefinition) hstart) hempty.1) hempty.1)
      (within_nat (by decide))) hempty.2) (within_nat (by decide))) hsequence hhash) ?_
    omega

theorem reduce_moved (target : State) (typed : Option Dict)
    (hknows : Knows state definition frontier accepted) (hstate : Within b (.obj state))
    (htype : event.eventType = .transition)
    (hto : event.payload.get? "to_state" = some (.str target.name))
    (hpromoted : target ≠ .promoted)
    (htyped : event.payload.get? "typed_receipt" = typed.map fun receipt =>
      TypedReceipt.wrapped ⟨"product_iteration", receipt⟩)
    (hsize : ∀ receipt, typed = some receipt → Within 3200 (.obj receipt))
    (hsequence : event.sequence < 10 ^ 6) (hhash : IsDigest event.eventHash) :
    ∃ state', reduceV1 world state event = .ok state' ∧
      Knows state' (typed.getD definition) frontier accepted ∧
      Within (b + 3450) (.obj state') ∧ (typed = none → Within (b + 200) (.obj state')) := by
  obtain ⟨current, hcurrent⟩ := hknows.current
  have hitem : item state "current_state" = .ok current := item_eq_ok.mpr hcurrent
  have hlink : isText (some (.str target.name)) "promoted" = false := by
    cases target <;> first | rfl | exact absurd rfl hpromoted
  have hkeys : quoteSize "definition" = 12 ∧ quoteSize "current_state" = 15 := by decide
  have hmoved : Within (b + 49) (.obj (state.set "current_state" (.str target.name))) := by
    have hname := size_state_name target
    refine within_mono (within_set hstate (within_mono (within_str _) hname)) ?_
    omega
  have hknown : Knows (state.set "current_state" (.str target.name)) definition frontier
      accepted := knows_set hknows _ (by decide)
  cases typed with
  | none =>
      have hreduce : reduceV1 world state event = .ok (bookkept
          (state.set "current_state" (.str target.name)) event) := by
        simp only [reduceV1, reduceEvent, htype, reduceTransition, hitem, ok_bind, hto,
          Option.getD_some, linkPromotion, hlink, Bool.false_eq_true, false_and, if_false,
          typedReceipt_of_none htyped]
        rfl
      refine ⟨_, hreduce, knows_bookkept hknown event, ?_, fun _ => ?_⟩ <;>
      · refine within_mono (within_bookkept hmoved hsequence hhash) ?_
        omega
  | some receipt =>
      have hreceipt : typedReceipt event.payload = .ok
          [("receipt", .obj receipt), ("receipt_type", .str "product_iteration")] := by
        rw [typedReceipt, htyped]
        rfl
      have hreduce : reduceV1 world state event = .ok (bookkept
          ((state.set "current_state" (.str target.name)).set "definition" (.obj receipt))
          event) := by
        simp only [reduceV1, reduceEvent, htype, reduceTransition, hitem, ok_bind, hto,
          Option.getD_some, linkPromotion, hlink, Bool.false_eq_true, false_and, if_false,
          hreceipt]
        rfl
      refine ⟨_, hreduce, knows_bookkept ?_ event, ?_, by rintro ⟨⟩⟩
      · constructor
        case current => simp [Dict.get?_set]
        case definition => simp
        case frontier => simpa [Dict.get?_set] using hknown.frontier
        case accepted => simpa [Dict.get?_set] using hknown.accepted
        case count => simpa [Dict.get?_set] using hknown.count
        case enrollments => simpa [Dict.get?_set] using hknown.enrollments
        case attempts => simpa [Dict.get?_set] using hknown.attempts
      · refine within_mono (within_bookkept (within_set hmoved (hsize receipt rfl)) hsequence
          hhash) ?_
        omega

structure Frontier (frontier : Dict) (sequence : Nat) (digest : String) (b : Nat) : Prop where
  lastSequence : frontier.get? "last_observation_sequence" = some (Json.nat sequence)
  hash : frontier.get? "frontier_hash" = some (.str digest)
  quoted : quoteSize digest = 66
  within : Within b (.obj frontier)

theorem quoteSize_zeros : quoteSize zeros = 66 := by
  rw [← byteQuoteSize_eq]
  decide

theorem frontier_startFrontier : Frontier startFrontier 0 zeros 150 where
  lastSequence := rfl
  hash := rfl
  quoted := quoteSize_zeros
  within := by
    simp only [Within, ← byteSize_eq]
    decide

end MindscapeLocalCore.DurableState.IterationProjections
