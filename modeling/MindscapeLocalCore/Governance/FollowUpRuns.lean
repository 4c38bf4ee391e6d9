import MindscapeLocalCore.Governance.FollowUps
import MindscapeLocalCore.Library.Trace

/-!
Completions of failing results in any order of their store calls: follow-ups are unique, bounded
and not lost exactly where the registry answers and no task creation fails.
-/

namespace MindscapeLocalCore.Governance.FollowUpRuns

open Library Library.Json RemediationPolicy FollowUps

/-! ### Follow-ups of an execution -/

def originalExecutionId (task : Task) : Option String :=
  match task.executionContext.get? "original_execution_id" with
  | some (.str executionId) => some executionId
  | _ => none

def recordedRound (task : Task) : Option ℤ :=
  match task.executionContext.get? "remediation_round" with
  | some (.num (.int round)) => some round
  | _ => none

def FollowsUp (executionId : String) (round : ℤ) (task : Task) : Prop :=
  originalExecutionId task = some executionId ∧ recordedRound task = some round

instance (executionId : String) (round : ℤ) (task : Task) :
    Decidable (FollowsUp executionId round task) :=
  inferInstanceAs (Decidable (_ ∧ _))

def IsOriginal (task : Task) : Prop := task.executionContext.get? "remediation_round" = none

/-- Tasks of which each follows up the one before it, and the first one the execution. A task is
completed under its own id. -/
def ChainFrom (tasks : List Task) : String → List Task → Prop
  | _, [] => True
  | executionId, task :: rest =>
      task ∈ tasks ∧ (∃ round, FollowsUp executionId round task) ∧ ChainFrom tasks task.id rest

def completion? : Phase → Option Completion
  | .absent => none
  | .reading call => some call
  | .registering call _ => some call
  | .creating call _ _ => some call
  | .done call _ => some call

def Busy : Phase → Prop
  | .done _ _ => False
  | _ => True

def Unused (s : State) (id : String) : Prop :=
  (∀ task ∈ s.tasks, task.id ≠ id ∧ task.executionId ≠ some id) ∧
    ∀ i call, completion? (s.calls i) = some call → call.executionId ≠ id

def DrawsNew (s : State) : Event → Prop
  | .step i input =>
      match s.calls i with
      | .creating _ _ _ => Unused s input.newId
      | _ => True
  | .call _ _ => True

def Answered (s : State) : Event → Prop
  | .step i input =>
      match s.calls i with
      | .registering _ _ => input.registryAvailable = true
      | .creating _ _ _ => input.createSucceeds = true
      | _ => True
  | .call _ _ => True

structure Initial (s : State) : Prop where
  absent : ∀ i, s.calls i = .absent
  originals : ∀ task ∈ s.tasks, IsOriginal task

def CanStillCreate (s : State) (followUp : FollowUpContext) : Prop :=
  ∃ later, Trace.Along next DrawsNew s later ∧
    ∃ task ∈ (Trace.stateAfter next s later).tasks,
      FollowsUp followUp.originalExecutionId followUp.remediationRound task

structure Remediates (s : State) : Prop where
  /-- one at most for each execution and round -/
  unique : ∀ executionId round,
    (s.tasks.filter fun task => FollowsUp executionId round task).length ≤ 1
  /-- a call that the registry gave no answer has created its follow-up -/
  failsOpen : ∀ i call outcome, s.calls i = .done call outcome →
    outcome.registered = some none → ∃ id, outcome.creation = some (some id)
  /-- a follow-up whose creation failed can still be created -/
  retries : ∀ i call followUp registered, s.calls i = .done call ⟨some followUp, registered, some none⟩ →
    CanStillCreate s followUp
  /-- the follow-ups that one original execution leads to -/
  bounded : ∀ executionId, (∀ task, getTaskByExecutionId executionId s.tasks = some task →
      IsOriginal task) →
    ∀ chain, ChainFrom s.tasks executionId chain →
      (chain.length : ℤ) ≤ defaultPolicy.maxRounds ∧
        ∀ (k : ℕ) task, chain[k]? = some task → recordedRound task = some ((k : ℤ) + 1)

/-! ### One call -/

variable {s : State} {i j : ℕ} {call : Completion} {followUp : FollowUpContext} {task : Task}
  {input : Input} {executionId id : String} {round : ℤ} {tasks : List Task}

theorem followsUp_followUpTask :
    FollowsUp followUp.originalExecutionId followUp.remediationRound (followUpTask call followUp id) :=
  ⟨rfl, rfl⟩

theorem followsUp_iff_of_followUpTask :
    FollowsUp executionId round (followUpTask call followUp id) ↔
      followUp.originalExecutionId = executionId ∧ followUp.remediationRound = round := by
  constructor
  · rintro ⟨hid, hround⟩
    exact ⟨Option.some.inj hid, Option.some.inj hround⟩
  · rintro ⟨rfl, rfl⟩
    exact followsUp_followUpTask

def roundOf (executionId : String) (tasks : List Task) : Option ℤ :=
  currentRound (((getTaskByExecutionId executionId tasks).map Task.executionContext).getD [])

/-- What a follow-up context says: its key is that of its execution and round, and the round is
one more than that of the execution, within the policy. -/
structure Due (call : Completion) (tasks : List Task) (followUp : FollowUpContext) : Prop where
  execution : followUp.originalExecutionId = call.executionId
  key : followUp.idempotencyKey = idempotencyKey call.executionId followUp.remediationRound
  counted : roundOf call.executionId tasks = some (followUp.remediationRound - 1)
  within : followUp.remediationRound ≤ defaultPolicy.maxRounds

theorem followUpContext_of_decide {policy : Policy} {evalResult : EvalResult} {currentRound : ℤ}
    {artifactId playbookCode : Option String} {acceptanceTests : Option Json}
    (h : (RemediationPolicy.decide policy evalResult currentRound executionId artifactId playbookCode
      acceptanceTests).followUpContext = some followUp) :
    followUp.originalExecutionId = executionId ∧
      followUp.idempotencyKey = idempotencyKey executionId followUp.remediationRound ∧
      followUp.remediationRound = currentRound + 1 ∧ currentRound < policy.maxRounds := by
  rw [RemediationPolicy.decide] at h
  split at h
  · cases h
  · split at h
    · cases h
    · rename_i hmax
      split at h
      · cases h
      · cases h
        exact ⟨rfl, rfl, rfl, Int.not_le.mp hmax⟩

theorem due_of_followUpContextOf
    (h : followUpContextOf call (getTaskByExecutionId call.executionId tasks) = some followUp) :
    Due call tasks followUp := by
  obtain ⟨current, hcurrent, hdecided⟩ := Option.bind_eq_some_iff.mp h
  simp only at hdecided
  split at hdecided
  · obtain ⟨decided, hcontext, rfl⟩ := Option.map_eq_some_iff.mp hdecided
    obtain ⟨hexecution, hkey, hround, hmax⟩ := followUpContext_of_decide hcontext
    refine ⟨hexecution, hkey, ?_, ?_⟩
    · rw [roundOf, hcurrent, hround, add_sub_cancel_right]
    · show decided.remediationRound ≤ _
      rw [hround]
      exact hmax
  · cases hdecided

/-! ### The invariant -/

/-- The key that a phase was granted: the registry took it in for this call. -/
def Holds : Phase → String → Prop
  | .creating _ followUp registered, key =>
      registered = some (some true) ∧ followUp.idempotencyKey = key
  | .done _ outcome, key =>
      outcome.registered = some (some true) ∧
        ∃ followUp, outcome.followUp = some followUp ∧ followUp.idempotencyKey = key
  | _, _ => False

def Lawful (tasks : List Task) : Phase → Prop
  | .registering call followUp => Due call tasks followUp
  | .creating call followUp registered =>
      Due call tasks followUp ∧ registered = some (some true)
  | .done call outcome =>
      (∀ followUp, outcome.followUp = some followUp → Due call tasks followUp) ∧
        (outcome.creation ≠ none →
          outcome.registered = some (some true) ∧ outcome.followUp ≠ none)
  | _ => True

/-- A key is granted once, to the call that creates the follow-up, and the round of a follow-up
is that of its execution and one. -/
structure Kept (s : State) : Prop where
  lawful : ∀ i, Lawful s.tasks (s.calls i)
  single : ∀ i j key, Holds (s.calls i) key → Holds (s.calls j) key → i = j
  stored : ∀ i key, Holds (s.calls i) key → ∃ row ∈ s.registry, row.idempotencyKey = key
  made : ∀ task ∈ s.tasks, ∀ executionId round, FollowsUp executionId round task →
    ∃ i call outcome, s.calls i = .done call outcome ∧
      outcome.creation = some (some task.id) ∧
      Holds (s.calls i) (idempotencyKey executionId round)
  apart : s.tasks.Pairwise fun task other => ∀ executionId round,
    FollowsUp executionId round task → ¬ FollowsUp executionId round other
  found : ∀ task ∈ s.tasks, ¬ IsOriginal task → getTaskByExecutionId task.id s.tasks = some task

theorem not_holds_of_absent {key : String} (h : s.calls i = .absent) : ¬ Holds (s.calls i) key := by
  rw [h]
  exact id

theorem isOriginal_iff_not_followsUp (h : IsOriginal task) : ¬ FollowsUp executionId round task := by
  rintro ⟨-, hround⟩
  rw [recordedRound, h] at hround
  cases hround

theorem kept_initial (h : Initial s) : Kept s where
  lawful i := by
    rw [h.absent i]
    trivial
  single i j key hi := absurd hi (not_holds_of_absent (h.absent i))
  stored i key hi := absurd hi (not_holds_of_absent (h.absent i))
  made task htask executionId round hfollows :=
    absurd hfollows (isOriginal_iff_not_followsUp (h.originals task htask))
  apart := by
    refine List.pairwise_of_forall_mem_list fun task htask other _ executionId round hfollows => ?_
    exact absurd hfollows (isOriginal_iff_not_followsUp (h.originals task htask))
  found task htask hfollow := absurd (h.originals task htask) hfollow

/-- A call that is not over goes on, and the tasks stay: it keeps what it holds, or takes a key
that no call holds. -/
theorem kept_enter {registry : List HandoffRow} {phase : Phase} (h : Kept s)
    (hbusy : Busy (s.calls i))
    (hregistry : s.registry ⊆ registry) (hlawful : Lawful s.tasks phase)
    (hholds : ∀ key, Holds phase key → Holds (s.calls i) key ∨
      (∀ j, ¬ Holds (s.calls j) key) ∧ ∃ row ∈ registry, row.idempotencyKey = key) :
    Kept (State.enter { s with registry := registry } i phase) := by
  have hself : (State.enter { s with registry := registry } i phase).calls i = phase :=
    Function.update_self ..
  have hother : ∀ j, j ≠ i →
      (State.enter { s with registry := registry } i phase).calls j = s.calls j :=
    fun j hj => Function.update_of_ne hj ..
  constructor
  · intro j
    by_cases hj : j = i
    · rw [hj, hself]
      exact hlawful
    · rw [hother j hj]
      exact h.lawful j
  · intro j k key hj hk
    by_cases hji : j = i
    · by_cases hki : k = i
      · exact hji.trans hki.symm
      · rw [hji, hself] at hj
        rw [hother k hki] at hk
        rcases hholds key hj with hold | ⟨hnone, -⟩
        · exact hji.trans (h.single i k key hold hk)
        · exact absurd hk (hnone k)
    · rw [hother j hji] at hj
      by_cases hki : k = i
      · rw [hki, hself] at hk
        rcases hholds key hk with hold | ⟨hnone, -⟩
        · exact (h.single j i key hj hold).trans hki.symm
        · exact absurd hj (hnone j)
      · rw [hother k hki] at hk
        exact h.single j k key hj hk
  · intro j key hj
    by_cases hji : j = i
    · rw [hji, hself] at hj
      rcases hholds key hj with hold | ⟨-, hrow⟩
      · obtain ⟨row, hrow, hkey⟩ := h.stored i key hold
        exact ⟨row, hregistry hrow, hkey⟩
      · exact hrow
    · rw [hother j hji] at hj
      obtain ⟨row, hrow, hkey⟩ := h.stored j key hj
      exact ⟨row, hregistry hrow, hkey⟩
  · intro task htask executionId round hfollows
    obtain ⟨j, call, outcome, hdone, hcreation, hkey⟩ :=
      h.made task htask executionId round hfollows
    have hj : j ≠ i := by
      rintro rfl
      rw [hdone] at hbusy
      exact hbusy
    refine ⟨j, call, outcome, ?_, hcreation, ?_⟩
    · rw [hother j hj]
      exact hdone
    · rw [hother j hj]
      exact hkey
  · exact h.apart
  · exact h.found

theorem getTaskByExecutionId_cons (hid : task.id ≠ executionId)
    (hexecution : task.executionId ≠ some executionId) :
    getTaskByExecutionId executionId (task :: tasks) = getTaskByExecutionId executionId tasks := by
  rw [getTaskByExecutionId, getTaskByExecutionId, List.find?_cons_of_neg, List.find?_cons_of_neg]
  · simpa using hid
  · simpa using hexecution

theorem getTaskByExecutionId_self (hnew : ∀ old ∈ tasks, old.executionId ≠ some task.id)
    (hown : task.executionId = none) :
    getTaskByExecutionId task.id (task :: tasks) = some task := by
  have hnone : (task :: tasks).find? (fun old => old.executionId = some task.id) = none := by
    rw [List.find?_eq_none]
    intro old hmem
    rcases List.mem_cons.mp hmem with rfl | hmem
    · rw [hown]
      simp
    · simpa using hnew old hmem
  rw [getTaskByExecutionId, hnone, Option.none_or, List.find?_cons_of_pos]
  exact decide_eq_true rfl

theorem due_cons (h : Due call tasks followUp) (hid : task.id ≠ call.executionId)
    (hexecution : task.executionId ≠ some call.executionId) : Due call (task :: tasks) followUp where
  execution := h.execution
  key := h.key
  counted := by
    rw [roundOf, getTaskByExecutionId_cons hid hexecution]
    exact h.counted
  within := h.within

theorem lawful_cons {phase : Phase} (h : Lawful tasks phase)
    (hid : ∀ call, completion? phase = some call →
      task.id ≠ call.executionId ∧ task.executionId ≠ some call.executionId) :
    Lawful (task :: tasks) phase := by
  cases phase with
  | absent => trivial
  | reading call => trivial
  | registering call followUp =>
      obtain ⟨hid, hexecution⟩ := hid call rfl
      exact due_cons h hid hexecution
  | creating call followUp registered =>
      obtain ⟨hid, hexecution⟩ := hid call rfl
      exact ⟨due_cons h.1 hid hexecution, h.2⟩
  | done call outcome =>
      obtain ⟨hid, hexecution⟩ := hid call rfl
      exact ⟨fun followUp hfollowUp => due_cons (h.1 followUp hfollowUp) hid hexecution, h.2⟩

theorem kept_create {registered : Option (Option Bool)} (h : Kept s)
    (hcreating : s.calls i = .creating call followUp registered) (hunused : Unused s id) :
    Kept (State.enter { s with tasks := followUpTask call followUp id :: s.tasks } i
      (.done call ⟨some followUp, registered, some (some id)⟩)) := by
  have hlaw := h.lawful i
  rw [hcreating] at hlaw
  obtain ⟨hdue, rfl⟩ := hlaw
  have hself : (State.enter { s with tasks := followUpTask call followUp id :: s.tasks } i
      (.done call ⟨some followUp, some (some true), some (some id)⟩)).calls i =
        .done call ⟨some followUp, some (some true), some (some id)⟩ := Function.update_self ..
  have hother : ∀ j, j ≠ i → (State.enter { s with tasks := followUpTask call followUp id :: s.tasks }
      i (.done call ⟨some followUp, some (some true), some (some id)⟩)).calls j = s.calls j :=
    fun j hj => Function.update_of_ne hj ..
  have hheld : Holds (s.calls i) followUp.idempotencyKey := by
    rw [hcreating]
    exact ⟨rfl, rfl⟩
  have hsame : ∀ j key, Holds ((State.enter
      { s with tasks := followUpTask call followUp id :: s.tasks } i
      (.done call ⟨some followUp, some (some true), some (some id)⟩)).calls j) key ↔
        Holds (s.calls j) key := by
    intro j key
    by_cases hj : j = i
    · rw [hj, hself, hcreating]
      constructor
      · rintro ⟨-, other, hfollowUp, hkey⟩
        obtain rfl := Option.some.inj hfollowUp
        exact ⟨rfl, hkey⟩
      · rintro ⟨-, hkey⟩
        exact ⟨rfl, followUp, rfl, hkey⟩
    · rw [hother j hj]
  have hunusedCall : ∀ j other, completion? (s.calls j) = some other →
      (followUpTask call followUp id).id ≠ other.executionId ∧
        (followUpTask call followUp id).executionId ≠ some other.executionId := by
    intro j other hother
    refine ⟨(hunused.2 j other hother).symm, ?_⟩
    intro hnone
    cases hnone
  -- no task follows this execution up in this round: its call would hold the same key
  have hfirst : ∀ task ∈ s.tasks,
      ¬ FollowsUp followUp.originalExecutionId followUp.remediationRound task := by
    intro task htask hfollows
    obtain ⟨j, other, outcome, hdone, -, hholds⟩ := h.made task htask _ _ hfollows
    rw [hdue.execution, ← hdue.key] at hholds
    obtain rfl := h.single j i _ hholds hheld
    rw [hcreating] at hdone
    cases hdone
  constructor
  · intro j
    by_cases hj : j = i
    · rw [hj, hself]
      have hcall := hunusedCall i call (by rw [hcreating]; rfl)
      refine ⟨fun other hfollowUp => ?_, fun _ => ⟨rfl, Option.some_ne_none followUp⟩⟩
      obtain rfl := Option.some.inj hfollowUp
      exact due_cons hdue hcall.1 hcall.2
    · rw [hother j hj]
      exact lawful_cons (h.lawful j) fun other hcall => hunusedCall j other hcall
  · intro j k key hj hk
    exact h.single j k key ((hsame j key).mp hj) ((hsame k key).mp hk)
  · intro j key hj
    exact h.stored j key ((hsame j key).mp hj)
  · intro task htask executionId round hfollows
    rcases List.mem_cons.mp htask with rfl | htask
    · obtain ⟨rfl, rfl⟩ := followsUp_iff_of_followUpTask.mp hfollows
      refine ⟨i, call, _, hself, rfl, (hsame i _).mpr ?_⟩
      rw [hdue.execution, ← hdue.key]
      exact hheld
    · obtain ⟨j, other, outcome, hdone, hcreation, hholds⟩ :=
        h.made task htask executionId round hfollows
      have hj : j ≠ i := by
        rintro rfl
        rw [hcreating] at hdone
        cases hdone
      exact ⟨j, other, outcome, (hother j hj).trans hdone, hcreation, (hsame j _).mpr hholds⟩
  · refine List.pairwise_cons.mpr ⟨fun task htask executionId round hfollows => ?_, h.apart⟩
    obtain ⟨rfl, rfl⟩ := followsUp_iff_of_followUpTask.mp hfollows
    exact hfirst task htask
  · intro task htask hfollow
    rcases List.mem_cons.mp htask with rfl | htask
    · exact getTaskByExecutionId_self (fun old hold => (hunused.1 old hold).2) rfl
    · refine (getTaskByExecutionId_cons ?_ ?_).trans (h.found task htask hfollow)
      · exact (hunused.1 task htask).1.symm
      · intro hnone
        cases hnone

theorem holds_decided {key : String} {followUp? : Option FollowUpContext}
    (h : ∀ followUp, followUp? = some followUp → followUp.idempotencyKey ≠ "") :
    ¬ Holds (decided call followUp?) key := by
  cases followUp? with
  | none =>
      rintro ⟨hregistered, -⟩
      cases hregistered
  | some followUp =>
      rw [decided, if_neg (h followUp rfl)]
      exact id

theorem kept_next {event : Event} (h : Kept s) (hnew : DrawsNew s event) :
    Kept (next s event) := by
  cases event with
  | call i call =>
      rw [next]
      split
      · rename_i habsent
        have hbusy : Busy (s.calls i) := by
          rw [habsent]
          trivial
        refine kept_enter h hbusy (List.Subset.refl _) ?_ ?_
        · rw [begin]
          split
          · refine ⟨fun followUp hfollowUp => ?_, fun hcreation => absurd rfl hcreation⟩
            cases hfollowUp
          · trivial
        · intro key hkey
          rw [begin] at hkey
          split at hkey
          · cases hkey.1
          · exact hkey.elim
      · exact h
  | step i input =>
      rw [next, step]
      rw [DrawsNew] at hnew
      cases hphase : s.calls i with
      | absent => exact h
      | done call outcome => exact h
      | reading call =>
          have hbusy : Busy (s.calls i) := by
            rw [hphase]
            trivial
          have hkeyed : ∀ followUp, followUpContextOf call
              (getTaskByExecutionId call.executionId s.tasks) = some followUp →
                followUp.idempotencyKey ≠ "" := by
            intro followUp hfollowUp
            rw [(due_of_followUpContextOf hfollowUp).key]
            exact idempotencyKey_ne_empty
          refine kept_enter h hbusy (List.Subset.refl _) ?_ ?_
          · cases hdecided : followUpContextOf call
                (getTaskByExecutionId call.executionId s.tasks) with
            | none =>
                refine ⟨fun followUp hfollowUp => ?_, fun hcreation => absurd rfl hcreation⟩
                cases hfollowUp
            | some followUp =>
                rw [decided, if_neg (hkeyed followUp hdecided)]
                exact due_of_followUpContextOf hdecided
          · exact fun key hkey => absurd hkey (holds_decided hkeyed)
      | registering call followUp =>
          have hbusy : Busy (s.calls i) := by
            rw [hphase]
            trivial
          have hdue := h.lawful i
          rw [hphase] at hdue
          dsimp only
          rw [registerAttempt]
          split
          · split
            · -- the registry has the key
              refine kept_enter h hbusy (List.Subset.refl _) ⟨?_, ?_⟩ ?_
              · intro other hfollowUp
                obtain rfl := Option.some.inj hfollowUp
                exact hdue
              · exact fun hcreation => absurd rfl hcreation
              · rintro key ⟨hregistered, -⟩
                cases hregistered
            · -- the key is new, and now held by this call
              rename_i hfree
              refine kept_enter h hbusy (List.subset_append_left _ _) ⟨hdue, rfl⟩ ?_
              rintro key ⟨-, rfl⟩
              refine .inr ⟨fun j hheld => hfree (h.stored j _ hheld), ?_⟩
              exact ⟨_, List.mem_append_right _ (List.mem_singleton_self _), rfl⟩
          · -- no answer
            refine kept_enter h hbusy (List.Subset.refl _) ⟨?_, ?_⟩ ?_
            · intro other hfollowUp
              obtain rfl := Option.some.inj hfollowUp
              exact hdue
            · exact fun hcreation => absurd rfl hcreation
            · rintro key ⟨hregistered, -⟩
              cases hregistered
      | creating call followUp registered =>
          rw [hphase] at hnew
          have hbusy : Busy (s.calls i) := by
            rw [hphase]
            trivial
          dsimp only
          split
          · exact kept_create h hphase hnew
          · have hlaw := h.lawful i
            rw [hphase] at hlaw
            obtain ⟨hdue, hgranted⟩ := hlaw
            refine kept_enter h hbusy (List.Subset.refl _) ⟨?_, ?_⟩ ?_
            · intro other hfollowUp
              obtain rfl := Option.some.inj hfollowUp
              exact hdue
            · exact fun _ => ⟨hgranted, Option.some_ne_none followUp⟩
            · rintro key ⟨hregistered, other, hfollowUp, hkey⟩
              obtain rfl := Option.some.inj hfollowUp
              rw [hphase]
              exact .inl ⟨hregistered, hkey⟩

theorem kept_run {events : List Event} (h : Kept s) (hnew : Trace.Along next DrawsNew s events) :
    Kept (Trace.stateAfter next s events) :=
  Trace.invariant_of_along h (fun _ _ hkept => kept_next hkept) hnew

/-! ### Unique and bounded -/

theorem unique_of_kept (h : Kept s) (executionId : String) (round : ℤ) :
    (s.tasks.filter fun task => FollowsUp executionId round task).length ≤ 1 := by
  have hpairwise : (s.tasks.filter fun task => FollowsUp executionId round task).Pairwise
      fun _ _ => False := by
    refine (List.pairwise_filter.mpr (h.apart.imp ?_))
    intro task other hapart hfollows hother
    exact hapart executionId round (of_decide_eq_true hfollows) (of_decide_eq_true hother)
  cases hfilter : s.tasks.filter fun task => FollowsUp executionId round task with
  | nil => exact Nat.zero_le _
  | cons first rest =>
      rw [hfilter] at hpairwise
      cases rest with
      | nil => exact Nat.le_refl _
      | cons second rest =>
          exact ((List.pairwise_cons.mp hpairwise).1 second List.mem_cons_self).elim

theorem counted_of_followsUp (h : Kept s) (htask : task ∈ s.tasks)
    (hfollows : FollowsUp executionId round task) :
    roundOf executionId s.tasks = some (round - 1) ∧ round ≤ defaultPolicy.maxRounds := by
  obtain ⟨i, call, outcome, hdone, -, hholds⟩ := h.made task htask executionId round hfollows
  have hlaw := h.lawful i
  rw [hdone] at hholds hlaw
  obtain ⟨-, followUp, hfollowUp, hkey⟩ := hholds
  have hdue := hlaw.1 followUp hfollowUp
  obtain ⟨rfl, rfl⟩ := idempotencyKey_inj.mp (hdue.key.symm.trans hkey)
  exact ⟨hdue.counted, hdue.within⟩

theorem roundOf_followUp (h : Kept s) (htask : task ∈ s.tasks)
    (hfollows : FollowsUp executionId round task) : roundOf task.id s.tasks = some round := by
  have hfound := h.found task htask fun horiginal => isOriginal_iff_not_followsUp horiginal hfollows
  rw [roundOf, hfound]
  have hround := hfollows.2
  rw [recordedRound] at hround
  show currentRound task.executionContext = some round
  rw [currentRound]
  split at hround
  · rename_i hcontext
    rw [hcontext]
    exact hround
  · cases hround

theorem chain_rounds (h : Kept s) {chain : List Task} {base : ℤ}
    (hbase : roundOf executionId s.tasks = some base) (hwithin : base ≤ defaultPolicy.maxRounds)
    (hchain : ChainFrom s.tasks executionId chain) :
    base + chain.length ≤ defaultPolicy.maxRounds ∧
      ∀ (k : ℕ) task, chain[k]? = some task → recordedRound task = some (base + k + 1) := by
  induction chain generalizing executionId base with
  | nil =>
      refine ⟨by simpa using hwithin, fun k task htask => ?_⟩
      cases htask
  | cons first rest ih =>
      obtain ⟨hmem, ⟨round, hfollows⟩, hrest⟩ := hchain
      obtain ⟨hcounted, hround⟩ := counted_of_followsUp h hmem hfollows
      have hsucc : round - 1 = base := Option.some.inj (hcounted.symm.trans hbase)
      obtain ⟨hlength, hrounds⟩ := ih (roundOf_followUp h hmem hfollows) hround hrest
      refine ⟨?_, fun k task htask => ?_⟩
      · rw [List.length_cons]
        push_cast
        omega
      · cases k with
        | zero =>
            obtain rfl := Option.some.inj htask
            rw [hfollows.2]
            congr 1
            push_cast
            omega
        | succ k =>
            rw [hrounds k task htask]
            congr 1
            push_cast
            omega

theorem bounded_of_kept (h : Kept s)
    (horiginal : ∀ task, getTaskByExecutionId executionId s.tasks = some task → IsOriginal task)
    {chain : List Task} (hchain : ChainFrom s.tasks executionId chain) :
    (chain.length : ℤ) ≤ defaultPolicy.maxRounds ∧
      ∀ (k : ℕ) task, chain[k]? = some task → recordedRound task = some ((k : ℤ) + 1) := by
  have hbase : roundOf executionId s.tasks = some 0 := by
    rw [roundOf]
    cases hfound : getTaskByExecutionId executionId s.tasks with
    | none => rfl
    | some task =>
        show currentRound task.executionContext = some 0
        rw [currentRound, horiginal task hfound]
  obtain ⟨hlength, hrounds⟩ := chain_rounds h hbase (by decide) hchain
  rw [zero_add] at hlength
  refine ⟨hlength, fun k task htask => ?_⟩
  rw [hrounds k task htask, zero_add]

/-! ### Not lost -/

theorem done_next {outcome : Outcome} (event : Event) (h : s.calls i = .done call outcome) :
    (next s event).calls i = .done call outcome := by
  have hkeep : ∀ (s' : State) j phase, s'.calls = s.calls → Busy (s.calls j) →
      (s'.enter j phase).calls i = .done call outcome := by
    intro s' j phase hsame hbusy
    have hne : i ≠ j := by
      rintro rfl
      rw [h] at hbusy
      exact hbusy
    exact (Function.update_of_ne hne ..).trans ((congrFun hsame i).trans h)
  cases event with
  | call j other =>
      rw [next]
      split
      · rename_i habsent
        refine hkeep s j _ rfl ?_
        rw [habsent]
        trivial
      · exact h
  | step j input =>
      rw [next, step]
      split
      · rename_i hphase
        refine hkeep s j _ rfl ?_
        rw [hphase]
        trivial
      · rename_i hphase
        refine hkeep _ j _ rfl ?_
        rw [hphase]
        trivial
      · rename_i hphase
        split
        · refine hkeep _ j _ rfl ?_
          rw [hphase]
          trivial
        · refine hkeep _ j _ rfl ?_
          rw [hphase]
          trivial
      · exact h

theorem done_run {outcome : Outcome} (events : List Event) (h : s.calls i = .done call outcome) :
    (Trace.stateAfter next s events).calls i = .done call outcome := by
  induction events generalizing s with
  | nil => exact h
  | cons event rest ih => exact ih (done_next event h)

theorem not_canStillCreate {registered : Option (Option Bool)} (h : Kept s)
    (hdone : s.calls i = .done call ⟨some followUp, registered, some none⟩) :
    ¬ CanStillCreate s followUp := by
  rintro ⟨later, hnew, task, htask, hfollows⟩
  have hkept := kept_run h hnew
  have hlater := done_run later hdone
  have hlaw := hkept.lawful i
  rw [hlater] at hlaw
  obtain ⟨hgranted, -⟩ := hlaw.2 (Option.some_ne_none _)
  have hdue := hlaw.1 followUp rfl
  obtain ⟨j, other, outcome, hother, hcreation, hholds⟩ := hkept.made task htask _ _ hfollows
  have hheld : Holds ((Trace.stateAfter next s later).calls i)
      (idempotencyKey followUp.originalExecutionId followUp.remediationRound) := by
    rw [hlater, hdue.execution, ← hdue.key]
    exact ⟨hgranted, followUp, rfl, rfl⟩
  obtain rfl := hkept.single i j _ hheld hholds
  obtain ⟨-, rfl⟩ := Phase.done.inj (hlater.symm.trans hother)
  cases Option.some.inj hcreation

/-- No call is over that got no answer or whose creation failed. -/
def Clean (s : State) : Prop :=
  ∀ i call outcome, s.calls i = .done call outcome →
    outcome.registered ≠ some none ∧ outcome.creation ≠ some none

theorem remediates_iff_clean (h : Kept s) : Remediates s ↔ Clean s := by
  constructor
  · rintro hremediates i call ⟨followUp, registered, creation⟩ hdone
    have hlaw := h.lawful i
    rw [hdone] at hlaw
    constructor
    · rintro rfl
      obtain ⟨id, rfl⟩ := hremediates.failsOpen i call _ hdone rfl
      cases (hlaw.2 (Option.some_ne_none _)).1
    · rintro rfl
      obtain ⟨-, hsome⟩ := hlaw.2 (Option.some_ne_none _)
      obtain ⟨followUp, rfl⟩ := Option.ne_none_iff_exists'.mp hsome
      exact not_canStillCreate h hdone (hremediates.retries i call followUp registered hdone)
  · intro hclean
    constructor
    · exact unique_of_kept h
    · exact fun i call outcome hdone hnone => absurd hnone (hclean i call outcome hdone).1
    · exact fun i call followUp registered hdone =>
        absurd rfl (hclean i call _ hdone).2
    · exact fun executionId horiginal chain => bounded_of_kept h horiginal

theorem clean_enter {s' : State} {phase : Phase} (h : Clean s) (hcalls : s'.calls = s.calls) :
    Clean (s'.enter i phase) ↔ ∀ call outcome, phase = .done call outcome →
      outcome.registered ≠ some none ∧ outcome.creation ≠ some none := by
  constructor
  · intro hclean call outcome hdone
    refine hclean i call outcome ?_
    exact (Function.update_self ..).trans hdone
  · intro hphase j call outcome hdone
    by_cases hj : j = i
    · subst hj
      exact hphase call outcome ((Function.update_self ..).symm.trans hdone)
    · refine h j call outcome ?_
      rw [← hcalls]
      exact (Function.update_of_ne hj ..).symm.trans hdone

theorem clean_enter_of_busy {s' : State} {phase : Phase} (h : Clean s)
    (hcalls : s'.calls = s.calls) (hbusy : Busy phase) : Clean (s'.enter i phase) := by
  refine (clean_enter h hcalls).mpr fun call outcome hdone => ?_
  rw [hdone] at hbusy
  exact hbusy.elim

theorem clean_enter_done {s' : State} {outcome : Outcome} (h : Clean s)
    (hcalls : s'.calls = s.calls) :
    Clean (s'.enter i (.done call outcome)) ↔
      outcome.registered ≠ some none ∧ outcome.creation ≠ some none := by
  rw [clean_enter h hcalls]
  constructor
  · exact fun hdone => hdone call outcome rfl
  · rintro hclean _ _ ⟨⟩
    exact hclean

theorem clean_next {event : Event} (hkept : Kept s) (h : Clean s) :
    Clean (next s event) ↔ Answered s event := by
  cases event with
  | call i call =>
      rw [next, Answered, iff_true]
      split
      · rw [begin]
        split
        · exact (clean_enter_done h rfl).mpr ⟨by simp, by simp⟩
        · exact clean_enter_of_busy h rfl trivial
      · exact h
  | step i input =>
      rw [next, step, Answered]
      cases hphase : s.calls i with
      | absent => exact iff_of_true h trivial
      | done call outcome => exact iff_of_true h trivial
      | reading call =>
          refine iff_of_true ?_ trivial
          dsimp only
          cases followUpContextOf call (getTaskByExecutionId call.executionId s.tasks) with
          | none => exact (clean_enter_done h rfl).mpr ⟨by simp, by simp⟩
          | some followUp =>
              rw [decided]
              split
              · exact clean_enter_of_busy h rfl trivial
              · exact clean_enter_of_busy h rfl trivial
      | registering call followUp =>
          dsimp only
          rw [registerAttempt]
          split
          · rename_i havailable
            refine iff_of_true ?_ havailable
            split
            · exact (clean_enter_done h rfl).mpr ⟨by simp, by simp⟩
            · exact clean_enter_of_busy h rfl trivial
          · rename_i havailable
            refine iff_of_false ?_ havailable
            intro hclean
            exact ((clean_enter_done h rfl).mp hclean).1 rfl
      | creating call followUp registered =>
          have hlaw := hkept.lawful i
          rw [hphase] at hlaw
          obtain ⟨-, rfl⟩ := hlaw
          dsimp only
          split
          · rename_i hsucceeds
            refine iff_of_true ?_ hsucceeds
            exact (clean_enter_done h rfl).mpr ⟨by simp, by simp⟩
          · rename_i hfails
            refine iff_of_false ?_ hfails
            intro hclean
            exact ((clean_enter_done h rfl).mp hclean).2 rfl

theorem clean_initial (h : Initial s) : Clean s := by
  intro i call outcome hdone
  rw [h.absent i] at hdone
  cases hdone

structure KeptClean (s : State) : Prop where
  kept : Kept s
  clean : Clean s

theorem keptClean_next {event : Event} (h : KeptClean s) (hnew : DrawsNew s event) :
    KeptClean (next s event) ↔ Answered s event := by
  rw [← clean_next h.kept h.clean]
  constructor
  · exact KeptClean.clean
  · exact fun hclean => ⟨kept_next h.kept hnew, hclean⟩

/-- In every order of any number of calls, follow-ups stay unique, bounded and not lost exactly
where the registry answers each call that asks it and no task creation fails. -/
theorem remediates_throughout_iff {events : List Event} (h : Initial s)
    (hnew : Trace.Along next DrawsNew s events) :
    (∀ before rest, events = before ++ rest → Remediates (Trace.stateAfter next s before)) ↔
      Trace.Along next Answered s events := by
  have hstart : KeptClean s := ⟨kept_initial h, clean_initial h⟩
  rw [← Trace.holds_throughout_iff hstart (fun _ _ hclean => keptClean_next hclean) hnew]
  refine forall_congr' fun before => forall_congr' fun rest => forall_congr' ?_
  rintro rfl
  have hbefore := kept_run hstart.kept (Trace.along_append.mp hnew).1
  rw [remediates_iff_clean hbefore]
  constructor
  · exact fun hclean => ⟨hbefore, hclean⟩
  · exact KeptClean.clean

section Sample

def sampleTask : Task where
  id := "execution"
  workspaceId := "workspace"
  messageId := "message"
  executionId := some "execution"
  packId := "pack"
  taskType := "playbook_execution"
  status := "succeeded"
  params := []
  executionContext := []

def sampleState : State where
  registry := []
  tasks := [sampleTask]
  calls := fun _ => .absent

def sampleCompletion : Completion where
  workspaceId := "workspace"
  executionId := "execution"
  artifactId := none
  playbookCode := none
  evalResult := ⟨false, .int 0, []⟩

def answering : Input := ⟨true, true, "follow-up"⟩

def unavailable : Input := ⟨false, true, "follow-up"⟩

def delivery (input : Input) : List Event :=
  .call 0 sampleCompletion :: List.replicate 2 (.step 0 input)

theorem initial_sampleState : Initial sampleState where
  absent _ := rfl
  originals task htask := by
    obtain rfl := List.mem_singleton.mp htask
    rfl

/-- The registry gives the call no answer, and the call ends without a follow-up. -/
theorem unanswered_loses_followUp :
    Initial sampleState ∧ Trace.Along next DrawsNew sampleState (delivery unavailable) ∧
      ¬ Remediates (Trace.stateAfter next sampleState (delivery unavailable)) := by
  refine ⟨initial_sampleState, ⟨trivial, trivial, trivial, trivial⟩, ?_⟩
  intro hremediates
  obtain ⟨id, hid⟩ := hremediates.failsOpen 0 sampleCompletion _ rfl rfl
  cases hid

theorem answered_delivery_remediates :
    Remediates (Trace.stateAfter next sampleState (delivery answering ++ [.step 0 answering])) := by
  refine (remediates_throughout_iff initial_sampleState ?_).mpr ?_ _ []
    (List.append_nil _).symm
  · refine ⟨trivial, trivial, trivial, ⟨?_, ?_⟩, trivial⟩
    · intro task htask
      obtain rfl := List.mem_singleton.mp htask
      exact ⟨by decide, by decide⟩
    · intro i call hcall
      cases i with
      | zero =>
          obtain rfl : sampleCompletion = call := Option.some.inj hcall
          decide
      | succ i => cases (show none = some call from hcall)
  · exact ⟨trivial, trivial, rfl, rfl, trivial⟩

end Sample

end MindscapeLocalCore.Governance.FollowUpRuns
