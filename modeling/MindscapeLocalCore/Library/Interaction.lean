import Mathlib.Data.List.Basic
import Mathlib.Logic.Function.Basic
import MindscapeLocalCore.Library.Trace

/-!
Programs that perform operations on a shared state one at a time, and pools of such programs
whose operations interleave. A program that marks before it acts acts no more often than it
marks, however the others run.
-/

namespace MindscapeLocalCore.Library.Interaction

variable {op : Type} {answer : op → Type} {α β σ ι : Type}

inductive Program (op : Type) (answer : op → Type) (α : Type) where
  | done (result : α)
  | perform (o : op) (next : answer o → Program op answer α)

namespace Program

/-- The program that performs one operation and returns its answer. -/
def ask (o : op) : Program op answer (answer o) := .perform o .done

def bind : Program op answer α → (α → Program op answer β) → Program op answer β
  | .done a, f => f a
  | .perform o next, f => .perform o fun a => bind (next a) f

instance : Monad (Program op answer) where
  pure := .done
  bind := bind

/-- The program performs no operation of a kind. -/
def Avoids (bad : op → Prop) : Program op answer α → Prop
  | .done _ => True
  | .perform o next => ¬ bad o ∧ ∀ a, Avoids bad (next a)

def Marked (mark act : op → Prop) : Program op answer α → Prop
  | .done _ => True
  | .perform o next => ¬ mark o ∧
      (act o ∧ (∀ a, Avoids (fun o => mark o ∨ act o) (next a)) ∨
        ¬ act o ∧ ∀ a, Marked mark act (next a))

def MarksFirst (mark act : op → Prop) : Program op answer α → Prop
  | .done _ => True
  | .perform o next => ¬ act o ∧
      (mark o ∧ (∀ a, Marked mark act (next a)) ∨ ¬ mark o ∧ ∀ a, MarksFirst mark act (next a))

def Returns (warrants : (o : op) → answer o → α → Prop) : Program op answer α → Prop
  | .done _ => True
  | .perform o next =>
      ∀ a, (∀ result, next a = .done result → warrants o a result) ∧ Returns warrants (next a)

variable {mark act bad : op → Prop} {o : op} {next : answer o → Program op answer α}

theorem marksFirst_of_avoids {p : Program op answer α}
    (h : p.Avoids fun o => mark o ∨ act o) : p.MarksFirst mark act := by
  induction p with
  | done _ => trivial
  | perform o next ih =>
      obtain ⟨hne, hnext⟩ := h
      exact ⟨fun hact => hne (.inr hact), .inr ⟨fun hmark => hne (.inl hmark),
        fun a => ih a (hnext a)⟩⟩

theorem returns_mono {warrants warrants' : (o : op) → answer o → α → Prop}
    {p : Program op answer α} (h : p.Returns warrants)
    (hmono : ∀ o a result, warrants o a result → warrants' o a result) : p.Returns warrants' := by
  induction p with
  | done _ => trivial
  | perform o next ih =>
      intro a
      exact ⟨fun result hdone => hmono o a result ((h a).1 result hdone), ih a (h a).2⟩

end Program

open Program

/-- A call of a program: it has not begun, runs, has returned or has raised. -/
inductive Process (op : Type) (answer : op → Type) (α : Type) where
  | absent
  | running (p : Program op answer α)
  | returned (result : α)
  | raised

/-- What the calls performed, with the answers. -/
abbrev Log (op : Type) (answer : op → Type) : Type := List (ℕ × (o : op) × answer o)

/-- The calls that were made, the state that they share, and what they performed. -/
structure Pool (op : Type) (answer : op → Type) (α σ : Type) where
  shared : σ
  processes : ℕ → Process op answer α
  log : Log op answer

namespace Pool

/-- A call goes as far as its next operation. -/
def settle : Program op answer α → Process op answer α
  | .done result => .returned result
  | .perform o next => .running (.perform o next)

def call (i : ℕ) (p : Program op answer α) (pool : Pool op answer α σ) : Pool op answer α σ :=
  match pool.processes i with
  | .absent => { pool with processes := Function.update pool.processes i (settle p) }
  | _ => pool

/-- A call performs its next operation, with what the surroundings put in; where the operation
raises, the call has raised. -/
def step (perform : σ → (o : op) → ι → Option (answer o × σ)) (i : ℕ) (input : ι)
    (pool : Pool op answer α σ) : Pool op answer α σ :=
  match pool.processes i with
  | .running (.perform o next) =>
      match perform pool.shared o input with
      | some (a, shared) =>
          { shared := shared
            processes := Function.update pool.processes i (settle (next a))
            log := pool.log ++ [(i, ⟨o, a⟩)] }
      | none => { pool with processes := Function.update pool.processes i .raised }
  | _ => pool

/-- A call ends before its next operation. -/
def interrupt (i : ℕ) (pool : Pool op answer α σ) : Pool op answer α σ :=
  match pool.processes i with
  | .running _ => { pool with processes := Function.update pool.processes i .raised }
  | _ => pool

section Shared

variable (i : ℕ) (pool : Pool op answer α σ)

theorem call_shared (p : Program op answer α) :
    (call i p pool).shared = pool.shared ∧ (call i p pool).log = pool.log := by
  rw [call]
  split
  · exact ⟨rfl, rfl⟩
  · exact ⟨rfl, rfl⟩

theorem interrupt_shared :
    (interrupt i pool).shared = pool.shared ∧ (interrupt i pool).log = pool.log := by
  rw [interrupt]
  split
  · exact ⟨rfl, rfl⟩
  · exact ⟨rfl, rfl⟩

theorem step_cases (perform : σ → (o : op) → ι → Option (answer o × σ)) (input : ι) :
    (∃ o rest a shared, pool.processes i = .running (.perform o rest) ∧
        perform pool.shared o input = some (a, shared) ∧
        step perform i input pool =
          { shared := shared
            processes := Function.update pool.processes i (settle (rest a))
            log := pool.log ++ [(i, ⟨o, a⟩)] }) ∨
      (∃ o rest, pool.processes i = .running (.perform o rest) ∧
        perform pool.shared o input = none ∧
        step perform i input pool =
          { pool with processes := Function.update pool.processes i .raised }) ∨
      ((∀ o rest, pool.processes i ≠ .running (.perform o rest)) ∧
        step perform i input pool = pool) := by
  rw [step]
  split
  · rename_i o rest hrunning
    split
    · rename_i a shared hperform
      exact .inl ⟨o, rest, a, shared, hrunning, hperform, rfl⟩
    · rename_i hperform
      exact .inr (.inl ⟨o, rest, hrunning, hperform, rfl⟩)
  · rename_i hidle
    exact .inr (.inr ⟨hidle, rfl⟩)

theorem step_shared (perform : σ → (o : op) → ι → Option (answer o × σ)) (input : ι) :
    ((step perform i input pool).shared = pool.shared ∧
        (step perform i input pool).log = pool.log) ∨
      ∃ o rest a, pool.processes i = .running (.perform o rest) ∧
        perform pool.shared o input = some (a, (step perform i input pool).shared) ∧
        (step perform i input pool).log = pool.log ++ [(i, ⟨o, a⟩)] := by
  rcases step_cases i pool perform input with
    ⟨o, rest, a, shared, hrunning, hperform, hstep⟩ | ⟨o, rest, -, -, hstep⟩ | ⟨-, hstep⟩
  · rw [hstep]
    exact .inr ⟨o, rest, a, hrunning, hperform, rfl⟩
  · rw [hstep]
    exact .inl ⟨rfl, rfl⟩
  · rw [hstep]
    exact .inl ⟨rfl, rfl⟩

end Shared

def countOf (kind : op → Prop) [DecidablePred kind] (i : ℕ) (log : Log op answer) : ℕ :=
  log.countP fun entry => decide (entry.1 = i ∧ kind entry.2.1)

def count (kind : op → Prop) [DecidablePred kind] (log : Log op answer) : ℕ :=
  log.countP fun entry => decide (kind entry.2.1)

variable (mark act : op → Prop) [DecidablePred mark] [DecidablePred act]

/-- What a call may still do, by what it has done. -/
inductive Keeps (i : ℕ) (log : Log op answer) : Process op answer α → Prop
  | open {process : Process op answer α} (hmarks : countOf mark i log = 0)
      (hacts : countOf act i log = 0)
      (h : ∀ p, process = .running p → p.MarksFirst mark act) : Keeps i log process
  | marked {process : Process op answer α} (hbegun : process ≠ .absent)
      (hmarks : countOf mark i log = 1) (hacts : countOf act i log = 0)
      (h : ∀ p, process = .running p → p.Marked mark act) : Keeps i log process
  | acted {process : Process op answer α} (hbegun : process ≠ .absent)
      (hmarks : countOf mark i log = 1) (hacts : countOf act i log = 1)
      (h : ∀ p, process = .running p → p.Avoids fun o => mark o ∨ act o) : Keeps i log process

variable {mark act} {i j : ℕ} {log : Log op answer} {process : Process op answer α} {o : op}
  {a : answer o}

theorem keeps_le (h : Keeps mark act i log process) :
    countOf act i log ≤ countOf mark i log ∧ countOf mark i log ≤ 1 := by
  cases h with
  | «open» hmarks hacts _ => omega
  | marked _ hmarks hacts _ => omega
  | acted _ hmarks hacts _ => omega

theorem countOf_append (kind : op → Prop) [DecidablePred kind] :
    countOf kind j (log ++ [(i, ⟨o, a⟩)]) =
      countOf kind j log + if i = j ∧ kind o then 1 else 0 := by
  rw [countOf, List.countP_append, List.countP_singleton, ← countOf]
  simp only [decide_eq_true_eq]

theorem keeps_raised (h : Keeps mark act i log process) :
    Keeps mark act i log (.raised : Process op answer α) := by
  have hbegun : (.raised : Process op answer α) ≠ .absent := by
    intro h
    cases h
  have hnone : ∀ {q : Program op answer α → Prop} (p : Program op answer α),
      .raised = Process.running p → q p := by
    intro q p hp
    cases hp
  cases h with
  | «open» hmarks hacts _ => exact .open hmarks hacts hnone
  | marked _ hmarks hacts _ => exact .marked hbegun hmarks hacts hnone
  | acted _ hmarks hacts _ => exact .acted hbegun hmarks hacts hnone

theorem keeps_of_other (h : Keeps mark act j log process) (hne : i ≠ j) :
    Keeps mark act j (log ++ [(i, ⟨o, a⟩)]) process := by
  have hsame : ∀ (kind : op → Prop) [DecidablePred kind],
      countOf kind j (log ++ [(i, ⟨o, a⟩)]) = countOf kind j log := by
    intro kind _
    rw [countOf_append, if_neg fun hboth => hne hboth.1, Nat.add_zero]
  cases h with
  | «open» hmarks hacts h => exact .open ((hsame mark).trans hmarks) ((hsame act).trans hacts) h
  | marked hbegun hmarks hacts h =>
      exact .marked hbegun ((hsame mark).trans hmarks) ((hsame act).trans hacts) h
  | acted hbegun hmarks hacts h =>
      exact .acted hbegun ((hsame mark).trans hmarks) ((hsame act).trans hacts) h

theorem of_settle {q : Program op answer α → Prop} {p : Program op answer α} (hq : q p)
    (p' : Program op answer α) (hp : settle p = .running p') : q p' := by
  cases p with
  | done _ => cases hp
  | perform o next =>
      obtain rfl := Process.running.inj hp
      exact hq

theorem settle_ne_absent (p : Program op answer α) : settle p ≠ .absent := by
  intro h
  cases p with
  | done _ => cases h
  | perform _ _ => cases h

theorem keeps_of_step {next : answer o → Program op answer α}
    (h : Keeps mark act i log (.running (.perform o next))) (a : answer o) :
    Keeps mark act i (log ++ [(i, ⟨o, a⟩)]) (settle (next a)) := by
  have hcount : ∀ (kind : op → Prop) [DecidablePred kind],
      countOf kind i (log ++ [(i, ⟨o, a⟩)]) = countOf kind i log + if kind o then 1 else 0 := by
    intro kind _
    rw [countOf_append]
    simp only [true_and]
  cases h with
  | «open» hmarks hacts h =>
      obtain ⟨hact, ⟨hmark, hnext⟩ | ⟨hmark, hnext⟩⟩ := h _ rfl
      · refine .marked (settle_ne_absent _) ?_ ?_ (of_settle (hnext a))
        · rw [hcount, hmarks, if_pos hmark]
        · rw [hcount, hacts, if_neg hact]
      · refine .open ?_ ?_ (of_settle (hnext a))
        · rw [hcount, hmarks, if_neg hmark]
        · rw [hcount, hacts, if_neg hact]
  | marked _ hmarks hacts h =>
      obtain ⟨hmark, ⟨hact, hnext⟩ | ⟨hact, hnext⟩⟩ := h _ rfl
      · refine .acted (settle_ne_absent _) ?_ ?_ (of_settle (hnext a))
        · rw [hcount, hmarks, if_neg hmark]
        · rw [hcount, hacts, if_pos hact]
      · refine .marked (settle_ne_absent _) ?_ ?_ (of_settle (hnext a))
        · rw [hcount, hmarks, if_neg hmark]
        · rw [hcount, hacts, if_neg hact]
  | acted _ hmarks hacts h =>
      obtain ⟨hneither, hnext⟩ := h _ rfl
      refine .acted (settle_ne_absent _) ?_ ?_ (of_settle (hnext a))
      · rw [hcount, hmarks, if_neg fun hmark => hneither (.inl hmark)]
      · rw [hcount, hacts, if_neg fun hact => hneither (.inr hact)]

variable {pool : Pool op answer α σ}

def Orderly (mark act : op → Prop) [DecidablePred mark] [DecidablePred act]
    (pool : Pool op answer α σ) : Prop :=
  ∀ i, Keeps mark act i pool.log (pool.processes i)

theorem orderly_update (h : Orderly mark act pool) (hnew : Keeps mark act i pool.log process) :
    Orderly mark act { pool with processes := Function.update pool.processes i process } := by
  intro j
  show Keeps mark act j pool.log (Function.update pool.processes i process j)
  by_cases hj : j = i
  · subst hj
    rw [Function.update_self]
    exact hnew
  · rw [Function.update_of_ne hj]
    exact h j

theorem orderly_call {p : Program op answer α} (h : Orderly mark act pool)
    (hp : p.MarksFirst mark act) : Orderly mark act (call i p pool) := by
  rw [call]
  split
  · rename_i habsent
    refine orderly_update h ?_
    have hkeeps := h i
    rw [habsent] at hkeeps
    cases hkeeps with
    | «open» hmarks hacts _ => exact .open hmarks hacts (of_settle hp)
    | marked hbegun _ _ _ => exact absurd rfl hbegun
    | acted hbegun _ _ _ => exact absurd rfl hbegun
  · exact h

theorem orderly_step {perform : σ → (o : op) → ι → Option (answer o × σ)} {input : ι}
    (h : Orderly mark act pool) : Orderly mark act (step perform i input pool) := by
  rw [step]
  split
  · rename_i o next hrunning
    have hkeeps := h i
    rw [hrunning] at hkeeps
    split
    · rename_i a shared _
      intro j
      show Keeps mark act j (pool.log ++ [(i, ⟨o, a⟩)]) (Function.update pool.processes i _ j)
      by_cases hj : j = i
      · subst hj
        rw [Function.update_self]
        exact keeps_of_step hkeeps a
      · rw [Function.update_of_ne hj]
        exact keeps_of_other (h j) (Ne.symm hj)
    · exact orderly_update h (keeps_raised hkeeps)
  · exact h

theorem orderly_interrupt (h : Orderly mark act pool) : Orderly mark act (interrupt i pool) := by
  rw [interrupt]
  split
  · exact orderly_update h (keeps_raised (h i))
  · exact h

theorem countOf_add_le (kind : op → Prop) [DecidablePred kind] (log : Log op answer)
    (hne : i ≠ j) : countOf kind i log + countOf kind j log ≤ count kind log := by
  rw [count, List.countP_eq_countP_filter_add log (fun entry => decide (kind entry.2.1))
    fun entry => decide (entry.1 = i)]
  refine Nat.add_le_add ?_ ?_
  · rw [List.countP_filter]
    refine List.countP_mono_left fun entry _ hentry => ?_
    obtain ⟨hi, hkind⟩ := of_decide_eq_true hentry
    exact Bool.and_eq_true_iff.mpr ⟨decide_eq_true hkind, decide_eq_true hi⟩
  · rw [List.countP_filter]
    refine List.countP_mono_left fun entry _ hentry => ?_
    obtain ⟨hj, hkind⟩ := of_decide_eq_true hentry
    refine Bool.and_eq_true_iff.mpr ⟨decide_eq_true hkind, ?_⟩
    rw [hj, decide_eq_false (Ne.symm hne)]
    rfl

theorem count_act_le_one (h : ∀ i, countOf act i log ≤ countOf mark i log)
    (hmarks : count mark log ≤ 1) : count act log ≤ 1 := by
  by_cases hnone : count act log = 0
  · omega
  · obtain ⟨⟨i, o, a⟩, hmem, hact⟩ := List.countP_pos_iff.mp (Nat.pos_of_ne_zero hnone)
    have hact' : act o := of_decide_eq_true hact
    -- only the call that marked acts
    have honly : ∀ entry ∈ log, act entry.2.1 → entry.1 = i := by
      intro entry hentry hentry'
      by_contra hne
      have hmark : ∀ entry ∈ log, act entry.2.1 → 0 < countOf mark entry.1 log := by
        intro entry hmem hact
        refine Nat.lt_of_lt_of_le ?_ (h entry.1)
        exact List.countP_pos_iff.mpr ⟨entry, hmem, decide_eq_true ⟨rfl, hact⟩⟩
      have hboth := countOf_add_le mark log fun hsame : i = entry.1 => hne hsame.symm
      have hfirst : 0 < countOf mark i log := hmark _ hmem hact'
      have hsecond := hmark entry hentry hentry'
      omega
    have hsame : count act log = countOf act i log := by
      refine List.countP_congr fun entry hentry => ?_
      rw [decide_eq_true_iff, decide_eq_true_iff]
      exact ⟨fun hact => ⟨honly entry hentry hact, hact⟩, fun hboth => hboth.2⟩
    have hone : countOf mark i log ≤ count mark log :=
      List.countP_mono_left fun entry _ hentry =>
        decide_eq_true (of_decide_eq_true hentry).2
    have hi := h i
    omega

/-! ### What calls return -/

variable {warrants : (o : op) → answer o → α → Prop}

/-- Every call that runs returns what an answer warrants, and every call that has returned
returned what an answer to it did. -/
structure Warranted (warrants : (o : op) → answer o → α → Prop) (pool : Pool op answer α σ) :
    Prop where
  running : ∀ i p, pool.processes i = .running p → p.Returns warrants
  returned : ∀ i result, pool.processes i = .returned result →
    ∃ entry ∈ pool.log, entry.1 = i ∧ warrants entry.2.1 entry.2.2 result

theorem warranted_raise (h : Warranted warrants pool) :
    Warranted warrants { pool with processes := Function.update pool.processes i .raised } := by
  constructor
  · intro j p hp
    simp only [Function.update_apply] at hp
    split at hp
    · cases hp
    · exact h.running j p hp
  · intro j result hresult
    simp only [Function.update_apply] at hresult
    split at hresult
    · cases hresult
    · exact h.returned j result hresult

theorem warranted_interrupt (h : Warranted warrants pool) :
    Warranted warrants (interrupt i pool) := by
  rw [interrupt]
  split
  · exact warranted_raise h
  · exact h

theorem warranted_call {p : Program op answer α} (h : Warranted warrants pool)
    (hp : p.Returns warrants) (hwaits : ∀ result, p ≠ .done result) :
    Warranted warrants (call i p pool) := by
  rw [call]
  split
  · cases p with
    | done result => exact absurd rfl (hwaits result)
    | perform o next =>
        constructor
        · intro j p' hp'
          simp only [Function.update_apply] at hp'
          split at hp'
          · obtain rfl := Process.running.inj hp'
            exact hp
          · exact h.running j p' hp'
        · intro j result hresult
          simp only [Function.update_apply] at hresult
          split at hresult
          · cases hresult
          · exact h.returned j result hresult
  · exact h

theorem warranted_step {perform : σ → (o : op) → ι → Option (answer o × σ)} {input : ι}
    (h : Warranted warrants pool) : Warranted warrants (step perform i input pool) := by
  rw [step]
  split
  · rename_i o next hrunning
    have hreturns := h.running i _ hrunning
    split
    · rename_i a shared _
      constructor
      · intro j p hp
        simp only [Function.update_apply] at hp
        split at hp
        · exact of_settle (hreturns a).2 p hp
        · exact h.running j p hp
      · intro j result hresult
        simp only [Function.update_apply] at hresult
        split at hresult
        · rename_i hj
          refine ⟨(i, ⟨o, a⟩), List.mem_append_right _ (List.mem_singleton_self _), hj.symm, ?_⟩
          refine (hreturns a).1 result ?_
          cases hnext : next a with
          | done other =>
              rw [hnext] at hresult
              rw [Process.returned.inj hresult]
          | perform o' next' =>
              rw [hnext] at hresult
              cases hresult
        · obtain ⟨entry, hentry, hrest⟩ := h.returned j result hresult
          exact ⟨entry, List.mem_append_left _ hentry, hrest⟩
    · exact warranted_raise h
  · exact h

end Pool

end MindscapeLocalCore.Library.Interaction
