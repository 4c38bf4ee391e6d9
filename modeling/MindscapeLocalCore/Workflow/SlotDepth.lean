import Mathlib.Logic.Function.Basic
import Mathlib.Data.List.Basic
import MindscapeLocalCore.Library.Trace

/-!
The nesting limit of `playbook_slot` steps. The depth is one attribute of the orchestrator;
the calls of concurrent chains read, raise and restore it.
-/

namespace MindscapeLocalCore.Workflow.SlotDepth

open Library

variable {Chain : Type}

/-- `max_depth` of `execute_playbook_slot`. -/
def maxDepth : ℕ := 3

structure Orchestrator (Chain : Type) where
  /-- `_playbook_slot_depth` -/
  playbookSlotDepth : ℕ
  /-- `previous_depth` of each call that a chain is in, the innermost first -/
  calls : Chain → List ℕ

/-- `ENABLE_PLAYBOOK_SLOT_RUNTIME`, and whether `load_playbook_json` finds a playbook. -/
structure Runtime where
  enabled : Bool
  loads : String → Bool

inductive Event (Chain : Type) where
  | call (chain : Chain) (slot : String)
  | finish (chain : Chain)

inductive Reply where
  | disabled
  | tooDeep
  | notFound
  | entered
deriving DecidableEq

variable (runtime : Runtime)

/-- `execute_playbook_slot` up to its first await, with the depth that was read. -/
def reply (currentDepth : ℕ) (slot : String) : Reply :=
  if runtime.enabled = false then .disabled
  else if maxDepth ≤ currentDepth then .tooDeep
  else if runtime.loads slot = false then .notFound
  else .entered

variable [DecidableEq Chain]

/-- `_execute_playbook_slot`. A call that raises at once restores the depth before any other
chain runs. -/
def next (s : Orchestrator Chain) : Event Chain → Orchestrator Chain
  | .call chain slot =>
      if reply runtime s.playbookSlotDepth slot = .entered then
        { playbookSlotDepth := s.playbookSlotDepth + 1
          calls := Function.update s.calls chain (s.playbookSlotDepth :: s.calls chain) }
      else s
  | .finish chain =>
      match s.calls chain with
      | [] => s
      | previous :: rest =>
          { playbookSlotDepth := previous
            calls := Function.update s.calls chain rest }

def fresh : Orchestrator Chain :=
  { playbookSlotDepth := 0
    calls := fun _ => [] }

def Serial (s : Orchestrator Chain) : Event Chain → Prop
  | .call chain _ => ∀ other, other ≠ chain → s.calls other = []
  | .finish _ => True

def Exact (s : Orchestrator Chain) : Event Chain → Prop
  | .call chain _ => s.playbookSlotDepth = (s.calls chain).length
  | .finish _ => True

/-- A call is refused for depth exactly when its chain is in as many calls as the limit
allows, and no chain is in more. -/
def PerChain (s : Orchestrator Chain) : Event Chain → Prop
  | .call chain slot =>
      (reply runtime s.playbookSlotDepth slot = .tooDeep ↔ maxDepth ≤ (s.calls chain).length) ∧
        ∀ other, (s.calls other).length ≤ maxDepth
  | .finish _ => ∀ other, (s.calls other).length ≤ maxDepth

def Levels : List ℕ → Prop
  | [] => True
  | previous :: rest => previous = rest.length ∧ Levels rest

/-- One chain at most is in a call, and the depth counts its calls. -/
structure Nested (s : Orchestrator Chain) : Prop where
  alone : ∀ chain other, s.calls chain ≠ [] → s.calls other ≠ [] → chain = other
  depth : ∀ chain, s.calls chain ≠ [] → s.playbookSlotDepth = (s.calls chain).length
  idle : (∀ chain, s.calls chain = []) → s.playbookSlotDepth = 0
  levels : ∀ chain, Levels (s.calls chain)
  bounded : s.playbookSlotDepth ≤ maxDepth
  disabled : runtime.enabled = false → ∀ chain, s.calls chain = []

variable {runtime} {s : Orchestrator Chain}

omit [DecidableEq Chain] in
theorem nested_fresh : Nested runtime (fresh : Orchestrator Chain) :=
  ⟨fun _ _ h => absurd rfl h, fun _ h => absurd rfl h, fun _ => rfl, fun _ => trivial,
    Nat.zero_le _, fun _ _ => rfl⟩

omit [DecidableEq Chain] in
theorem Nested.length_le (h : Nested runtime s) (chain : Chain) :
    (s.calls chain).length ≤ maxDepth := by
  by_cases hcalls : s.calls chain = []
  · rw [hcalls]
    exact Nat.zero_le _
  · rw [← h.depth chain hcalls]
    exact h.bounded

omit [DecidableEq Chain] in
theorem Nested.exact_iff (h : Nested runtime s) {event : Event Chain} :
    Exact s event ↔ Serial s event := by
  cases event with
  | finish => exact Iff.rfl
  | call chain slot =>
      constructor
      · intro hexact other hne
        by_contra hother
        by_cases hcalls : s.calls chain = []
        · have hdepth := h.depth other hother
          rw [show s.playbookSlotDepth = (s.calls chain).length from hexact, hcalls] at hdepth
          exact hother (List.length_eq_zero_iff.mp hdepth.symm)
        · exact hne (h.alone other chain hother hcalls)
      · intro hserial
        show s.playbookSlotDepth = (s.calls chain).length
        by_cases hcalls : s.calls chain = []
        · rw [hcalls]
          refine h.idle fun other => ?_
          by_cases hsame : other = chain
          · rw [hsame, hcalls]
          · exact hserial other hsame
        · exact h.depth chain hcalls

theorem Nested.call (h : Nested runtime s) {chain : Chain} {slot : String}
    (hserial : Serial s (.call chain slot)) : Nested runtime (next runtime s (.call chain slot)) := by
  have hexact : s.playbookSlotDepth = (s.calls chain).length := h.exact_iff.mpr hserial
  rw [next]
  split
  · rename_i hentered
    have hself : Function.update s.calls chain (s.playbookSlotDepth :: s.calls chain) chain =
        s.playbookSlotDepth :: s.calls chain := Function.update_self ..
    have hothers : ∀ other, other ≠ chain →
        Function.update s.calls chain (s.playbookSlotDepth :: s.calls chain) other = [] :=
      fun other hne => (Function.update_of_ne hne ..).trans (hserial other hne)
    have honly : ∀ other,
        Function.update s.calls chain (s.playbookSlotDepth :: s.calls chain) other ≠ [] →
          other = chain := by
      intro other hcalls
      by_contra hne
      exact hcalls (hothers other hne)
    refine ⟨fun a b ha hb => (honly a ha).trans (honly b hb).symm, fun other hcalls => ?_,
      fun hidle => ?_, fun other => ?_, ?_, fun hdisabled => ?_⟩
    · rw [honly other hcalls]
      show _ = (Function.update s.calls chain (s.playbookSlotDepth :: s.calls chain) chain).length
      rw [hself, List.length_cons, hexact]
    · have hnil : Function.update s.calls chain (s.playbookSlotDepth :: s.calls chain) chain = [] :=
        hidle chain
      rw [hself] at hnil
      cases hnil
    · show Levels (Function.update s.calls chain (s.playbookSlotDepth :: s.calls chain) other)
      by_cases hsame : other = chain
      · rw [hsame, hself]
        exact ⟨hexact, h.levels chain⟩
      · rw [hothers other hsame]
        trivial
    · show s.playbookSlotDepth + 1 ≤ maxDepth
      by_contra hdeep
      have hlimit : maxDepth ≤ s.playbookSlotDepth := by omega
      rw [reply, if_pos hlimit] at hentered
      split at hentered <;> cases hentered
    · rw [reply, if_pos hdisabled] at hentered
      cases hentered
  · exact h

theorem Nested.finish (h : Nested runtime s) {chain : Chain} :
    Nested runtime (next runtime s (.finish chain)) := by
  rw [next]
  split
  · exact h
  · rename_i previous rest hcalls
    have hopen : s.calls chain ≠ [] := by
      rw [hcalls]
      exact List.cons_ne_nil _ _
    have hlevels := h.levels chain
    rw [hcalls] at hlevels
    obtain ⟨hprevious, hrest⟩ := hlevels
    have hself : Function.update s.calls chain rest chain = rest := Function.update_self ..
    have hothers : ∀ other, other ≠ chain → Function.update s.calls chain rest other = [] := by
      intro other hne
      rw [Function.update_of_ne hne]
      by_contra hother
      exact hne (h.alone other chain hother hopen)
    have honly : ∀ other, Function.update s.calls chain rest other ≠ [] → other = chain := by
      intro other hcalls'
      by_contra hne
      exact hcalls' (hothers other hne)
    refine ⟨fun a b ha hb => (honly a ha).trans (honly b hb).symm, fun other hcalls' => ?_,
      fun hidle => ?_, fun other => ?_, ?_, fun hdisabled => ?_⟩
    · rw [honly other hcalls']
      show previous = (Function.update s.calls chain rest chain).length
      rw [hself, hprevious]
    · have hnil : Function.update s.calls chain rest chain = [] := hidle chain
      rw [hself] at hnil
      show previous = 0
      rw [hprevious, hnil]
      rfl
    · show Levels (Function.update s.calls chain rest other)
      by_cases hsame : other = chain
      · rw [hsame, hself]
        exact hrest
      · rw [hothers other hsame]
        trivial
    · have hlength := h.length_le chain
      rw [hcalls, List.length_cons] at hlength
      show previous ≤ maxDepth
      omega
    · exact absurd (h.disabled hdisabled chain) hopen

theorem Nested.next (h : Nested runtime s) {event : Event Chain} (hserial : Serial s event) :
    Nested runtime (next runtime s event) := by
  cases event with
  | call => exact h.call hserial
  | finish => exact h.finish

omit [DecidableEq Chain] in
theorem Nested.perChain (h : Nested runtime s) {event : Event Chain} (hserial : Serial s event) :
    PerChain runtime s event := by
  cases event with
  | finish => exact h.length_le
  | call chain slot =>
      refine ⟨?_, h.length_le⟩
      have hexact : s.playbookSlotDepth = (s.calls chain).length := h.exact_iff.mpr hserial
      rw [← hexact, reply]
      by_cases henabled : runtime.enabled = false
      · have hidle := h.idle (h.disabled henabled)
        rw [if_pos henabled, hidle]
        exact iff_of_false nofun (by decide)
      · rw [if_neg henabled]
        by_cases hdeep : maxDepth ≤ s.playbookSlotDepth
        · rw [if_pos hdeep]
          exact iff_of_true rfl hdeep
        · rw [if_neg hdeep]
          refine iff_of_false ?_ hdeep
          split <;> nofun

theorem Nested.along (events : List (Event Chain)) (h : Nested runtime s) :
    (Trace.Along (SlotDepth.next runtime) Serial s events ↔
        Trace.Along (SlotDepth.next runtime) Exact s events) ∧
      (Trace.Along (SlotDepth.next runtime) Serial s events →
        Trace.Along (SlotDepth.next runtime) (PerChain runtime) s events) := by
  induction events generalizing s with
  | nil => exact ⟨Iff.rfl, id⟩
  | cons event events ih =>
      constructor
      · rw [Trace.Along, Trace.Along, h.exact_iff]
        exact and_congr_right fun hserial => (ih (h.next hserial)).1
      · rintro ⟨hserial, hrest⟩
        exact ⟨h.perChain hserial, (ih (h.next hserial)).2 hrest⟩

/-- The calls of a run each read the depth of their own chain exactly when no call is made
while another chain is in one, and then the limit is the one of each chain. -/
theorem limit_per_chain (runtime : Runtime) (events : List (Event Chain)) :
    (Trace.Along (next runtime) Serial fresh events ↔
        Trace.Along (next runtime) Exact fresh events) ∧
      (Trace.Along (next runtime) Serial fresh events →
        Trace.Along (next runtime) (PerChain runtime) fresh events) :=
  nested_fresh.along events

def running : Runtime :=
  { enabled := true
    loads := fun _ => true }

def nesting : List (Event String) :=
  [.call "plan" "outline", .call "plan" "outline", .call "plan" "outline", .call "plan" "outline"]

theorem limit_per_chain_nesting :
    (Trace.Along (next running) Serial fresh nesting ↔
        Trace.Along (next running) Exact fresh nesting) ∧
      (Trace.Along (next running) Serial fresh nesting →
        Trace.Along (next running) (PerChain running) fresh nesting) :=
  limit_per_chain running nesting

/-- A chain is refused for the depth of another one, and a chain nests too deep after another
one has ended. -/
theorem concurrent_chains_share_depth :
    ¬ Trace.Along (next running) (PerChain running) fresh
        [.call "plan" "outline", .call "plan" "outline", .call "plan" "outline",
          .call "write" "draft"] ∧
      ¬ Trace.Along (next running) (PerChain running) fresh
        [.call "plan" "outline", .call "write" "draft", .call "write" "draft", .finish "plan",
          .call "write" "draft", .call "write" "draft"] := by
  constructor
  · rintro ⟨-, -, -, ⟨hrefused, -⟩, -⟩
    have hown := hrefused.mp rfl
    exact absurd hown (by decide)
  · rintro ⟨-, -, -, -, -, ⟨hrefused, -⟩, -⟩
    have htooDeep := hrefused.mpr (by decide)
    exact absurd htooDeep (by decide)

end MindscapeLocalCore.Workflow.SlotDepth
