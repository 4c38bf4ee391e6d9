import MindscapeLocalCore.RunnerResources.BrowserStartupGate

/-!
Resource-aware task admission: the leases and reservations that a task takes one after the
other, and what it gives back where one of them is refused.
-/

namespace MindscapeLocalCore.RunnerResources.Admission

open Library Library.Holdings Library.Json Library.PythonText BrowserStartupGate
open BudgetStores Leases NodeBudgetContract

/-- The payload of a refusal. Its `resource_keys` hold the one key. -/
structure BlockedPayload where
  policy : String
  reason : String
  taskId : String
  runnerProfile : String
  requirements : ResourceRequirements
  deferUntil : ℚ
  evaluatedAt : ℚ
  extra : Dict
  resourceKey : Option String

/-- The `resource_admission` of an admitted task. -/
structure AdmissionContext where
  taskId : String
  runnerProfile : String
  requirements : ResourceRequirements
  leaseKeys : List String
  requestedMemoryBytes : ℤ
  memoryReservationSource : Option String
  memoryAdmissionMode : String
  nodePolicyFingerprint : Option String
  resourceProfileFingerprint : Option String
  browserStartup : Option BrowserStartupDecision
  admittedAt : ℚ

structure ContextUpdates where
  leases : List ResourceLease
  reservation : Option NodeBudgetReservation
  resourceAdmission : AdmissionContext

structure ResourceAdmissionDecision where
  allow : Bool
  requirements : ResourceRequirements
  blockedReason : Option String := none
  blockedPayload : Option BlockedPayload := none
  nextEligibleAt : Option ℚ := none
  acquiredLeases : List ResourceLease := []
  preclaimLeases : List ResourceLease := []
  nodeBudgetReservation : Option NodeBudgetReservation := none
  preclaimNodeBudgetReservations : List NodeBudgetReservation := []
  executionContextUpdates : Option ContextUpdates := none

/-- The arguments besides the stores. The ids may be missing. -/
structure AdmissionCall where
  taskId : Option String
  requirements : ResourceRequirements
  profileCode : Option String
  availableSlots : Option ℤ
  nodeMemorySnapshot : Option Dict
  ownerId : String
  ttlSeconds : ℤ
  delaySeconds : ℤ
  now : ℚ

inductive Raised where
  | assertionError
  | storeError
deriving DecidableEq

structure Stores (σ τ : Type) where
  leases : σ
  budgets : Option τ

variable (p : Process) {σ τ : Type} (leaseStore : ResourceLeaseStore σ)
  (budgetStore : NodeBudgetStore τ) (clock : ℚ) (call : AdmissionCall)

abbrev Outcome (σ τ : Type) := Except Raised ResourceAdmissionDecision × Stores σ τ

/-! ### Releases -/

def releaseLeases (ownerId : String) (leases : List ResourceLease) (s : σ) : σ :=
  (leaseStore.pool clock ownerId).releaseAll leases s

def releaseReservations (reservations : List NodeBudgetReservation) (s : Option τ) : Option τ :=
  s.map ((budgetStore.pool clock).releaseAll reservations)

/-- The leases go first, then the reservations, if there is a store. -/
def releaseHeld (ownerId : String) (leases : List ResourceLease)
    (reservations : List NodeBudgetReservation) (stores : Stores σ τ) : Stores σ τ where
  leases := releaseLeases leaseStore clock ownerId leases stores.leases
  budgets := releaseReservations budgetStore clock reservations stores.budgets

def releaseAcquiredResourceAdmission (decision : ResourceAdmissionDecision) (ownerId : String) :
    Stores σ τ → Stores σ τ :=
  releaseHeld leaseStore budgetStore clock ownerId
    (decision.acquiredLeases ++ decision.preclaimLeases)
    (decision.nodeBudgetReservation.toList ++ decision.preclaimNodeBudgetReservations)

/-! ### Refusals -/

def profileCode : String :=
  orDefault (strip (orDefault (call.profileCode.getD "") "runner")) "runner"

def taskId : String := strip (call.taskId.getD "")

def blockedDecision (reason : String) (delaySeconds : ℤ) (extra : Dict)
    (resourceKey : Option String) : ResourceAdmissionDecision :=
  let nextEligibleAt := call.now + max 1 delaySeconds
  { allow := false
    requirements := call.requirements
    blockedReason := some "resource_wait"
    blockedPayload := some
      { policy := "resource_wait", reason
        taskId := taskId call
        runnerProfile := profileCode call
        requirements := call.requirements
        deferUntil := nextEligibleAt
        evaluatedAt := call.now
        extra, resourceKey }
    nextEligibleAt := some nextEligibleAt }

/-! ### The host -/

def truthy (text : Option String) : Bool := text.any (· ≠ "")

def hostResourceAdmissionEnabled : Bool :=
  let raw := (p.environ "LOCAL_CORE_HOST_RESOURCE_ADMISSION_ENABLED").getD "true"
  String.ofList ((strip raw).toList.flatMap TextScan.lowerChar) ∉ ["0", "false", "no", "off"]

def isBrowser (requirements : ResourceRequirements) : Bool :=
  requirements.resourceClass = some "browser" || requirements.browserContexts > 0

def requiresHostResourceGate (requirements : ResourceRequirements) : Bool :=
  !isBrowser requirements &&
    (requirements.memoryMb > 0 || truthy requirements.visionLane || truthy requirements.llmLane)

def hostRefusal : Option ResourceAdmissionDecision :=
  if !hostResourceAdmissionEnabled p || !requiresHostResourceGate call.requirements then none
  else match p.evaluateRunnerRequirements call.requirements with
    | none => none
    | some advice =>
        if advice.allow then none
        else
          let laneId := match advice.payload.get? "lane_id" with
            | some (.str laneId) => orDefault laneId "requirements"
            | _ => "requirements"
          some (blockedDecision call (orDefault (advice.reason.getD "") advice.decision)
            call.delaySeconds
            [("blocked_resource", .str "host_resource"), ("host_advisor", .obj advice.payload),
              ("host_decision", .str advice.decision)]
            (some ("host_resource:" ++ laneId)))

/-! ### The bytes -/

structure NodePlan where
  snapshot : Dict
  policy : Option NodeBudgetPolicy
  requestBytes : ℤ
  requestSource : Option String
  profileFingerprint : String

def nodeSnapshot : Dict :=
  match call.nodeMemorySnapshot with
  | some (member :: rest) => member :: rest
  | _ => p.currentNodeMemorySnapshot

def planNode (hasBudgets : Bool) : Except ResourceAdmissionDecision NodePlan :=
  if !isBrowser call.requirements then
    .ok ⟨[], none, 0, call.requirements.memoryReservationSource, ""⟩
  else
    let snapshot := nodeSnapshot p call
    let refuse reason extra := .error (blockedDecision call reason call.delaySeconds extra none)
    match resolveBrowserRequestBytes p call.requirements with
    | none => .ok ⟨snapshot, none, 0, some "unmeasured_no_reservation", ""⟩
    | some (requestBytes, requestSource) =>
        match resolveNodeBudgetPolicy p snapshot with
        | none =>
            refuse "browser_memory_requirement_unavailable"
              [("blocked_resource", .str "node_memory"), ("node_memory_snapshot", .obj snapshot)]
        | some policy =>
            let availableBytes := (p.intOrZero (snapshot.get? "available_bytes")).getD 0
            if availableBytes < requestBytes then
              refuse "node_memory_headroom_unavailable"
                [("available_bytes", integer availableBytes),
                  ("blocked_resource", .str "node_memory"),
                  ("node_policy_fingerprint", .str policy.fingerprint),
                  ("requested_bytes", integer requestBytes)]
            else if !hasBudgets then
              refuse "node_budget_unavailable" [("blocked_resource", .str "node_budget")]
            else
              .ok ⟨snapshot, some policy, requestBytes, some requestSource,
                resourceProfileFingerprint call.requirements requestBytes⟩

/-! ### The steps, from the last to the first -/

def memoryAdmissionMode (reservation : Option NodeBudgetReservation) (source : Option String) :
    String :=
  if reservation.isNone then "unmeasured_no_reservation"
  else if source = some "observed_unmeasured_floor" then "observed_floor_reservation"
  else if source = some "playbook_startup_fallback" then "measured_startup_fallback_reservation"
  else "measured_steady_reservation"

def admitted (plan : NodePlan) (acquired : List ResourceLease)
    (reservation : Option NodeBudgetReservation) (transient : List NodeBudgetReservation)
    (startup : Option BrowserStartupDecision) : ResourceAdmissionDecision where
  allow := true
  requirements := call.requirements
  acquiredLeases := acquired
  preclaimLeases := match startup with
    | none => []
    | some decision =>
        if decision.allow && truthy decision.leaseKey then
          [⟨decision.leaseKey.getD "", "browser_startup",
            "slot_" ++ toString (decision.slotIndex.getD 0)⟩]
        else []
  nodeBudgetReservation := reservation
  preclaimNodeBudgetReservations := transient
  executionContextUpdates :=
    if !acquired.isEmpty || reservation.isSome || isBrowser call.requirements then
      some
        { leases := acquired, reservation
          resourceAdmission :=
            { taskId := taskId call
              runnerProfile := profileCode call
              requirements := call.requirements
              leaseKeys := acquired.map ResourceLease.leaseKey
              requestedMemoryBytes := plan.requestBytes
              memoryReservationSource := plan.requestSource
              memoryAdmissionMode := memoryAdmissionMode reservation plan.requestSource
              nodePolicyFingerprint := plan.policy.map NodeBudgetPolicy.fingerprint
              resourceProfileFingerprint :=
                if plan.profileFingerprint = "" then none else some plan.profileFingerprint
              browserStartup := startup
              admittedAt := call.now } }
    else none

/-- The physical bytes that are left, but no more than the policy hands out. -/
def startupGateSnapshot (plan : NodePlan) : Dict :=
  match plan.policy with
  | none => plan.snapshot
  | some policy =>
      let physical := (p.intOrZero (plan.snapshot.get? "available_bytes")).getD 0
      plan.snapshot.set "available_bytes" (integer (min physical policy.allocatableBytes))

def passStartupGate (plan : NodePlan) (acquired : List ResourceLease)
    (reservation : Option NodeBudgetReservation) (transient : List NodeBudgetReservation)
    (stores : Stores σ τ) : Outcome σ τ :=
  match acquireBrowserStartupGate p leaseStore clock call.requirements
      (startupGateSnapshot p plan) call.ownerId stores.leases with
  | (none, leases) => (.error .storeError, { stores with leases })
  | (some decision, leases) =>
      let stores := { stores with leases }
      if decision.allow then
        (.ok (admitted call plan acquired reservation transient (some decision)), stores)
      else
        (.ok (blockedDecision call
            (orDefault (decision.reason.getD "") "browser_startup_gate_unavailable")
            decision.spacingSeconds
            [("blocked_resource", .str "browser_startup"),
              ("startup_request_source", .str decision.requestSource),
              ("startup_requested_bytes", integer decision.requestedBytes),
              ("startup_slot_count", integer decision.slotCount),
              ("startup_spacing_seconds", integer decision.spacingSeconds)] none),
          releaseHeld leaseStore budgetStore clock call.ownerId acquired
            (reservation.toList ++ transient) stores)

/-- A reservation of a step, which goes on with it or is refused. The store and the policy are
asserted to be there. -/
def reserving (ownerId : String) (requestBytes : ℤ) (policy : Option NodeBudgetPolicy)
    (profileFingerprint : String) (ttlSeconds : ℤ)
    (granted : NodeBudgetReservation → Stores σ τ → Outcome σ τ)
    (refused : NodeBudgetPolicy → NodeBudgetAcquireResult → Stores σ τ → Outcome σ τ)
    (stores : Stores σ τ) : Outcome σ τ :=
  match stores.budgets, policy with
  | some budgets, some policy =>
      let out := budgetStore.acquire clock ownerId requestBytes policy profileFingerprint
        ttlSeconds budgets
      let stores := { stores with budgets := some out.1 }
      match out.2.allow, out.2.reservation with
      | true, some reservation => granted reservation stores
      | _, _ => refused policy out.2 stores
  | _, _ => (.error .assertionError, stores)

def reserveStartup (plan : NodePlan) (acquired : List ResourceLease)
    (reservation : Option NodeBudgetReservation) (stores : Stores σ τ) : Outcome σ τ :=
  if !isBrowser call.requirements then
    (.ok (admitted call plan acquired reservation [] none), stores)
  else
    let startupBytes := ((resolveBrowserStartupRequestBytes call.requirements).map (·.1)).getD 0
    let transientBytes := max 0 (startupBytes - plan.requestBytes)
    let spacingSeconds := resolveBrowserStartupSpacingSeconds p call.requirements
    if 0 < transientBytes then
      reserving budgetStore clock (call.ownerId ++ ":browser_startup") transientBytes plan.policy
        (resourceProfileFingerprint call.requirements startupBytes) spacingSeconds
        (fun transient => passStartupGate p leaseStore budgetStore clock call plan acquired
          reservation [transient])
        (fun policy decision stores =>
          (.ok (blockedDecision call "browser_startup_node_budget_exhausted" spacingSeconds
              [("allocatable_bytes", integer policy.allocatableBytes),
                ("blocked_resource", .str "browser_startup_node_budget"),
                ("node_policy_fingerprint", .str policy.fingerprint),
                ("reserved_bytes", integer decision.reservedBytes),
                ("startup_requested_bytes", integer startupBytes),
                ("startup_transient_bytes", integer transientBytes)] none),
            releaseHeld leaseStore budgetStore clock call.ownerId acquired reservation.toList
              stores)) stores
    else
      passStartupGate p leaseStore budgetStore clock call plan acquired reservation [] stores

def reserveNode (plan : NodePlan) (acquired : List ResourceLease) (stores : Stores σ τ) :
    Outcome σ τ :=
  if isBrowser call.requirements && decide (0 < plan.requestBytes) then
    reserving budgetStore clock call.ownerId plan.requestBytes plan.policy
      plan.profileFingerprint call.ttlSeconds
      (fun reservation => reserveStartup p leaseStore budgetStore clock call plan acquired
        (some reservation))
      (fun policy decision stores =>
        (.ok (blockedDecision call
            (orDefault (decision.reason.getD "") "node_budget_exhausted") call.delaySeconds
            [("allocatable_bytes", integer policy.allocatableBytes),
              ("blocked_resource", .str "node_budget"),
              ("node_policy_fingerprint", .str policy.fingerprint),
              ("requested_bytes", integer plan.requestBytes),
              ("reserved_bytes", integer decision.reservedBytes),
              ("resource_profile_fingerprint", .str plan.profileFingerprint)] none),
          releaseHeld leaseStore budgetStore clock call.ownerId acquired [] stores)) stores
  else reserveStartup p leaseStore budgetStore clock call plan acquired none stores

def resourceEntries (requirements : ResourceRequirements) : List (String × String) :=
  match requirements.igProfileLock with
  | none => []
  | some lock => if lock = "" then [] else [("ig_profile_lock", lock)]

def acquireLeases (plan : NodePlan) :
    List (String × String) → List ResourceLease → Stores σ τ → Outcome σ τ
  | [], acquired, stores => reserveNode p leaseStore budgetStore clock call plan acquired stores
  | (resourceType, resourceId) :: rest, acquired, stores =>
      let leaseKey := buildResourceLeaseKey p resourceType resourceId
      match leaseStore.acquire clock leaseKey call.ownerId call.ttlSeconds stores.leases with
      | (none, leases) => (.error .storeError, { stores with leases })
      | (some true, leases) =>
          acquireLeases plan rest (acquired ++ [⟨leaseKey, resourceType, resourceId⟩])
            { stores with leases }
      | (some false, leases) =>
          (.ok (blockedDecision call (resourceType ++ "_leased") call.delaySeconds []
              (some leaseKey)),
            releaseHeld leaseStore budgetStore clock call.ownerId acquired []
              { stores with leases })

def acquireTaskResourceAdmission (stores : Stores σ τ) : Outcome σ τ :=
  if call.requirements.browserContexts > max 0 (call.availableSlots.getD 0) then
    (.ok (blockedDecision call "browser_contexts_unavailable" call.delaySeconds [] none), stores)
  else match hostRefusal p call with
    | some decision => (.ok decision, stores)
    | none =>
        match planNode p call stores.budgets.isSome with
        | .error decision => (.ok decision, stores)
        | .ok plan =>
            acquireLeases p leaseStore budgetStore clock call plan
              (resourceEntries call.requirements) [] stores

/-! ### What is unexpired -/

structure View where
  leases : String → Option Held
  reservations : String → Option NodeBudgetReservation

def view (stores : Stores σ τ) : View where
  leases := leaseStore.live clock stores.leases
  reservations owner := stores.budgets.bind fun budgets => budgetStore.live clock budgets owner

structure Holding (ownerId : String) (base : View) (leases : List ResourceLease)
    (reservations : List NodeBudgetReservation) (current : View) : Prop where
  leases : Added ResourceLease.leaseKey (fun _ held => held.ownerId = ownerId) leases
    base.leases current.leases
  reservations : Added NodeBudgetReservation.ownerId
    (fun reservation stored => stored.revision = reservation.revision) reservations
    base.reservations current.reservations

def TtlsAccepted : Prop :=
  ∀ ttlSeconds, ttlSeconds = call.ttlSeconds ∨ 5 ≤ ttlSeconds ∧ ttlSeconds ≤ 300 →
    leaseStore.Accepts clock ttlSeconds ∧ budgetStore.Accepts clock ttlSeconds

/-- A refusal leaves the base, and an admission adds exactly what its decision lists. -/
def AllOrNothing (base : View) (outcome : Outcome σ τ) : Prop :=
  ∃ decision, outcome.1 = .ok decision ∧
    ((decision.allow = false ∧ view leaseStore budgetStore clock outcome.2 = base) ∨
      (decision.allow = true ∧ Holding call.ownerId base
        (decision.acquiredLeases ++ decision.preclaimLeases)
        (decision.nodeBudgetReservation.toList ++ decision.preclaimNodeBudgetReservations)
        (view leaseStore budgetStore clock outcome.2)))

structure Backed (plan : NodePlan) (hasBudgets : Bool) : Prop where
  nonneg : 0 ≤ plan.requestBytes
  backed : 0 < plan.requestBytes ∨ 0 < call.requirements.browserStartupMemoryMb →
    plan.policy.isSome = true ∧ hasBudgets = true

variable {p leaseStore budgetStore clock call} {ownerId : String} {base : View}
  {leases acquired : List ResourceLease} {reservations transient : List NodeBudgetReservation}
  {reservation : Option NodeBudgetReservation} {stores : Stores σ τ} {plan : NodePlan}

theorem view_releaseHeld
    (h : Holding ownerId base leases reservations (view leaseStore budgetStore clock stores)) :
    view leaseStore budgetStore clock
      (releaseHeld leaseStore budgetStore clock ownerId leases reservations stores) = base := by
  obtain ⟨baseLeases, baseReservations⟩ := base
  obtain ⟨leaseState, budgets⟩ := stores
  have hleases := (leaseStore.pool clock ownerId).releaseAll_restores h.leases
  have hreservations : (fun owner => (releaseReservations budgetStore clock reservations
      budgets).bind fun budgets => budgetStore.live clock budgets owner) = baseReservations := by
    cases budgets with
    | some budgets => exact (budgetStore.pool clock).releaseAll_restores h.reservations
    | none =>
        funext owner
        refine h.reservations.other owner fun receipt hmem => ?_
        obtain ⟨entry, hentry, -⟩ := h.reservations.held receipt hmem
        cases hentry
  exact View.mk.injEq .. |>.mpr ⟨hleases, hreservations⟩

theorem allOrNothing_refused {reason : String} {delaySeconds : ℤ} {extra : Dict}
    {resourceKey : Option String} (h : Holding call.ownerId base leases reservations
      (view leaseStore budgetStore clock stores)) :
    AllOrNothing leaseStore budgetStore clock call base
      (.ok (blockedDecision call reason delaySeconds extra resourceKey),
        releaseHeld leaseStore budgetStore clock call.ownerId leases reservations stores) :=
  ⟨_, rfl, .inl ⟨rfl, view_releaseHeld h⟩⟩

theorem resolveBrowserRequestBytes_cases (requirements : ResourceRequirements) :
    (resolveBrowserRequestBytes p requirements = none ∧
      requirements.browserStartupMemoryMb ≤ 0) ∨
      ∃ requestBytes source,
        resolveBrowserRequestBytes p requirements = some (requestBytes, source) ∧
          0 < requestBytes := by
  have hmib : 0 < mib := by decide
  rw [resolveBrowserRequestBytes]
  split
  · exact .inr ⟨_, _, rfl, Int.mul_pos ‹_› hmib⟩
  · split
    · exact .inr ⟨_, _, rfl, Int.mul_pos ‹_› hmib⟩
    · have hstartup : requirements.browserStartupMemoryMb ≤ 0 := not_lt.mp ‹_›
      split
      · split
        · exact .inr ⟨_, _, rfl, Int.mul_pos ‹_› hmib⟩
        · exact .inl ⟨rfl, hstartup⟩
      · exact .inl ⟨rfl, hstartup⟩

theorem planNode_backed {hasBudgets : Bool} (hbrowser : isBrowser call.requirements = true)
    (h : planNode p call hasBudgets = .ok plan) : Backed call plan hasBudgets := by
  simp only [planNode, hbrowser, Bool.not_true, Bool.false_eq_true, if_false] at h
  rcases resolveBrowserRequestBytes_cases (p := p) call.requirements with
    ⟨hnone, hstartup⟩ | ⟨requestBytes, source, hsome, hpos⟩
  · rw [hnone] at h
    cases h
    exact ⟨le_refl 0, fun hneeds => absurd hneeds (by simpa using hstartup)⟩
  · rw [hsome] at h
    dsimp only at h
    split at h
    · cases h
    · split at h
      · cases h
      · split at h
        · cases h
        · cases h
          exact ⟨hpos.le, fun _ => ⟨rfl, by simpa using ‹¬(!hasBudgets) = true›⟩⟩

theorem planNode_error_allow {hasBudgets : Bool} {decision : ResourceAdmissionDecision}
    (h : planNode p call hasBudgets = .error decision) : decision.allow = false := by
  unfold planNode at h
  dsimp only at h
  split at h
  · cases h
  · split at h
    · cases h
    · split at h
      · cases h
        rfl
      · split at h
        · cases h
          rfl
        · split at h <;> cases h
          rfl

theorem hostRefusal_allow {decision : ResourceAdmissionDecision}
    (h : hostRefusal p call = some decision) : decision.allow = false := by
  unfold hostRefusal at h
  split at h
  · cases h
  · split at h
    · cases h
    · split at h
      · cases h
      · cases h
        rfl

/-! ### The steps -/

theorem passStartupGate_allOrNothing (httl : TtlsAccepted leaseStore budgetStore clock call)
    (h : Holding call.ownerId base acquired (reservation.toList ++ transient)
      (view leaseStore budgetStore clock stores)) :
    AllOrNothing leaseStore budgetStore clock call base
      (passStartupGate p leaseStore budgetStore clock call plan acquired reservation transient
        stores) := by
  have haccepts : leaseStore.Accepts clock
      (resolveBrowserStartupSpacingSeconds p call.requirements) :=
    (httl _ (.inr spacing_bounds)).1
  obtain ⟨decision, hanswer, hgate⟩ :=
    gate_live (startupGateSnapshot p plan) call.ownerId stores.leases haccepts
  rw [passStartupGate]
  generalize acquireBrowserStartupGate p leaseStore clock call.requirements
    (startupGateSnapshot p plan) call.ownerId stores.leases = out at hanswer hgate
  obtain ⟨answer, leases⟩ := out
  obtain rfl : answer = some decision := hanswer
  rcases hgate with ⟨hallow, hlive⟩ | ⟨leaseKey, expiresAt, hallow, hkey, hne, hfree, hlive⟩
  · simp only [hallow, Bool.false_eq_true, if_false]
    have hleases : leaseStore.live clock leases = leaseStore.live clock stores.leases := hlive
    refine allOrNothing_refused ⟨?_, h.reservations⟩
    change Added _ _ _ _ (leaseStore.live clock leases)
    rw [hleases]
    exact h.leases
  · simp only [hallow, if_true]
    have hpreclaim : (admitted call plan acquired reservation transient
        (some decision)).preclaimLeases =
          [⟨leaseKey, "browser_startup", "slot_" ++ toString (decision.slotIndex.getD 0)⟩] := by
      simp [admitted, hallow, hkey, truthy, hne]
    refine ⟨_, rfl, .inr ⟨rfl, ?_, h.reservations⟩⟩
    rw [hpreclaim]
    exact h.leases.append hfree (decide_eq_true rfl) hlive

theorem reserving_allOrNothing {requestBytes ttlSeconds : ℤ} {policy : Option NodeBudgetPolicy}
    {profileFingerprint : String} {granted : NodeBudgetReservation → Stores σ τ → Outcome σ τ}
    {refused : NodeBudgetPolicy → NodeBudgetAcquireResult → Stores σ τ → Outcome σ τ}
    (haccepts : budgetStore.Accepts clock ttlSeconds) (hpolicy : policy.isSome = true)
    (hbudgets : stores.budgets.isSome = true) (hfree : base.reservations ownerId = none)
    (hother : ∀ r ∈ reservations, r.ownerId ≠ ownerId)
    (h : Holding call.ownerId base acquired reservations
      (view leaseStore budgetStore clock stores))
    (hgranted : ∀ r stores, r.ownerId = ownerId → stores.budgets.isSome = true →
      Holding call.ownerId base acquired (reservations ++ [r])
        (view leaseStore budgetStore clock stores) →
      AllOrNothing leaseStore budgetStore clock call base (granted r stores))
    (hrefused : ∀ policy result stores, Holding call.ownerId base acquired reservations
        (view leaseStore budgetStore clock stores) →
      AllOrNothing leaseStore budgetStore clock call base (refused policy result stores)) :
    AllOrNothing leaseStore budgetStore clock call base
      (reserving budgetStore clock ownerId requestBytes policy profileFingerprint ttlSeconds
        granted refused stores) := by
  obtain ⟨policy, rfl⟩ := Option.isSome_iff_exists.mp hpolicy
  obtain ⟨leases, _ | budgets⟩ := stores
  · cases hbudgets
  have hnone : budgetStore.live clock budgets ownerId = none :=
    (h.reservations.other ownerId hother).trans hfree
  have hacquire := budgetStore.acquire_live clock ownerId requestBytes policy profileFingerprint
    ttlSeconds budgets haccepts hnone
  simp only [reserving]
  generalize budgetStore.acquire clock ownerId requestBytes policy profileFingerprint ttlSeconds
    budgets = out at hacquire
  obtain ⟨budgets', decision⟩ := out
  rcases hacquire with ⟨hallow, hlive⟩ |
    ⟨reservation, stored, hallow, hreservation, howner, hrevision, hlive⟩
  · dsimp only at hallow hlive
    simp only [hallow]
    refine hrefused policy decision _ ⟨h.leases, ?_⟩
    change Added _ _ _ _ (budgetStore.live clock budgets')
    rw [hlive]
    exact h.reservations
  · dsimp only at hallow hreservation hlive
    simp only [hallow, hreservation]
    subst howner
    exact hgranted reservation _ rfl rfl
      ⟨h.leases, h.reservations.append hnone (decide_eq_true hrevision) hlive⟩

theorem reserveStartup_allOrNothing (httl : TtlsAccepted leaseStore budgetStore clock call)
    (hbacked : isBrowser call.requirements = true → Backed call plan stores.budgets.isSome)
    (hfree : base.reservations (call.ownerId ++ ":browser_startup") = none)
    (hown : ∀ r ∈ reservation.toList, r.ownerId = call.ownerId)
    (h : Holding call.ownerId base acquired reservation.toList
      (view leaseStore budgetStore clock stores)) :
    AllOrNothing leaseStore budgetStore clock call base
      (reserveStartup p leaseStore budgetStore clock call plan acquired reservation stores) := by
  have hnone : Holding call.ownerId base acquired (reservation.toList ++ [])
      (view leaseStore budgetStore clock stores) := by
    rw [List.append_nil]
    exact h
  rw [reserveStartup]
  cases hbrowser : isBrowser call.requirements with
  | false => exact ⟨_, rfl, .inr ⟨rfl, (List.append_nil acquired).symm ▸ hnone⟩⟩
  | true =>
      simp only [Bool.not_true, Bool.false_eq_true, if_false]
      split
      case isFalse => exact passStartupGate_allOrNothing httl hnone
      case isTrue hpositive =>
        -- Only a startup that was measured exceeds what is reserved.
        have hneeds : 0 < call.requirements.browserStartupMemoryMb := by
          by_contra hnot
          have hstartup : resolveBrowserStartupRequestBytes call.requirements = none := by
            rw [resolveBrowserStartupRequestBytes]
            exact if_neg (by omega)
          have hnonneg := (hbacked hbrowser).nonneg
          rw [hstartup] at hpositive
          simp only [Option.map_none, Option.getD_none] at hpositive
          omega
        obtain ⟨hpolicy, hbudgets⟩ := (hbacked hbrowser).backed (.inr hneeds)
        refine reserving_allOrNothing (httl _ (.inr spacing_bounds)).2 hpolicy hbudgets hfree
          (fun r hmem heq => ?_) h (fun _ _ _ _ hgranted => ?_) (fun _ _ _ hrefused => ?_)
        · have hlength := congrArg String.length ((hown r hmem).symm.trans heq)
          rw [String.length_append] at hlength
          have hsuffix : 0 < ":browser_startup".length := by decide +kernel
          omega
        · exact passStartupGate_allOrNothing httl hgranted
        · exact allOrNothing_refused hrefused

theorem reserveNode_allOrNothing (httl : TtlsAccepted leaseStore budgetStore clock call)
    (hbacked : isBrowser call.requirements = true → Backed call plan stores.budgets.isSome)
    (hfree : base.reservations call.ownerId = none)
    (hfreeStartup : base.reservations (call.ownerId ++ ":browser_startup") = none)
    (h : Holding call.ownerId base acquired [] (view leaseStore budgetStore clock stores)) :
    AllOrNothing leaseStore budgetStore clock call base
      (reserveNode p leaseStore budgetStore clock call plan acquired stores) := by
  rw [reserveNode]
  split
  case isFalse =>
    exact reserveStartup_allOrNothing httl hbacked hfreeStartup
      (fun _ hmem => absurd hmem List.not_mem_nil) h
  case isTrue hrequests =>
    obtain ⟨hbrowser, hpositive⟩ := Bool.and_eq_true_iff.mp hrequests
    have hplan := hbacked hbrowser
    obtain ⟨hpolicy, hbudgets⟩ := hplan.backed (.inl (of_decide_eq_true hpositive))
    refine reserving_allOrNothing (httl _ (.inl rfl)).2 hpolicy hbudgets hfree
      (fun _ hmem => absurd hmem List.not_mem_nil) h
      (fun r stores' howner hbudgets' hgranted => ?_)
      (fun _ _ _ hrefused => allOrNothing_refused hrefused)
    have hbacked' : Backed call plan stores'.budgets.isSome := by
      rw [hbudgets', ← hbudgets]
      exact hplan
    refine reserveStartup_allOrNothing httl (fun _ => hbacked') hfreeStartup ?_ hgranted
    rintro _ hmem
    obtain rfl := List.mem_singleton.mp hmem
    exact howner

theorem acquireLeases_allOrNothing (httl : TtlsAccepted leaseStore budgetStore clock call)
    (hfree : base.reservations call.ownerId = none)
    (hfreeStartup : base.reservations (call.ownerId ++ ":browser_startup") = none)
    (entries : List (String × String))
    (hbacked : isBrowser call.requirements = true → Backed call plan stores.budgets.isSome)
    (h : Holding call.ownerId base acquired [] (view leaseStore budgetStore clock stores)) :
    AllOrNothing leaseStore budgetStore clock call base
      (acquireLeases p leaseStore budgetStore clock call plan entries acquired stores) := by
  induction entries generalizing acquired stores with
  | nil => exact reserveNode_allOrNothing httl hbacked hfree hfreeStartup h
  | cons entry rest ih =>
      obtain ⟨resourceType, resourceId⟩ := entry
      have hacquire := leaseStore.acquire_live clock
        (buildResourceLeaseKey p resourceType resourceId) call.ownerId call.ttlSeconds
        stores.leases (httl _ (.inl rfl)).1
      rw [acquireLeases]
      generalize leaseStore.acquire clock (buildResourceLeaseKey p resourceType resourceId)
        call.ownerId call.ttlSeconds stores.leases = out at hacquire
      obtain ⟨answer, leases⟩ := out
      rcases hacquire with ⟨rfl, hlive⟩ | ⟨rfl, hnone, expiresAt, hlive⟩
      · refine allOrNothing_refused ⟨?_, h.reservations⟩
        change Added _ _ _ _ (leaseStore.live clock leases)
        rw [show leaseStore.live clock leases = leaseStore.live clock stores.leases from hlive]
        exact h.leases
      · exact ih hbacked ⟨h.leases.append hnone (decide_eq_true rfl) hlive, h.reservations⟩

/-! ### Admission -/

variable (leaseStore budgetStore clock) in
/-- There is a decision, and no assert has failed. A refusal leaves the unexpired leases and
reservations as they were, and a release of what an admission took restores them, until
something expires. -/
def GivesBack (ownerId : String) (before : Stores σ τ) (outcome : Outcome σ τ) : Prop :=
  ∃ decision, outcome.1 = .ok decision ∧
    ((decision.allow = false ∧
      view leaseStore budgetStore clock outcome.2 = view leaseStore budgetStore clock before) ∨
      (decision.allow = true ∧ ∀ later,
        view leaseStore budgetStore later outcome.2 =
            view leaseStore budgetStore clock outcome.2 →
          view leaseStore budgetStore later (releaseAcquiredResourceAdmission leaseStore
            budgetStore later decision ownerId outcome.2) =
              view leaseStore budgetStore clock before))

/-- Admission is all or nothing where the owner and its startup hold no reservation and the
stores accept the ttls. -/
theorem admission_all_or_nothing (p : Process) (leaseStore : ResourceLeaseStore σ)
    (budgetStore : NodeBudgetStore τ) (clock : ℚ) (call : AdmissionCall) (stores : Stores σ τ)
    (httl : TtlsAccepted leaseStore budgetStore clock call)
    (hfree : (view leaseStore budgetStore clock stores).reservations call.ownerId = none)
    (hfreeStartup : (view leaseStore budgetStore clock stores).reservations
      (call.ownerId ++ ":browser_startup") = none) :
    GivesBack leaseStore budgetStore clock call.ownerId stores
      (acquireTaskResourceAdmission p leaseStore budgetStore clock call stores) := by
  have hdone : AllOrNothing leaseStore budgetStore clock call
      (view leaseStore budgetStore clock stores)
      (acquireTaskResourceAdmission p leaseStore budgetStore clock call stores) := by
    rw [acquireTaskResourceAdmission]
    split
    · exact ⟨_, rfl, .inl ⟨rfl, rfl⟩⟩
    · cases hhost : hostRefusal p call with
      | some decision => exact ⟨decision, rfl, .inl ⟨hostRefusal_allow hhost, rfl⟩⟩
      | none =>
          cases hplan : planNode p call stores.budgets.isSome with
          | error decision => exact ⟨decision, rfl, .inl ⟨planNode_error_allow hplan, rfl⟩⟩
          | ok plan =>
              exact acquireLeases_allOrNothing httl hfree hfreeStartup _
                (fun hbrowser => planNode_backed hbrowser hplan) ⟨added_nil, added_nil⟩
  obtain ⟨decision, hanswer, hdone⟩ := hdone
  refine ⟨decision, hanswer, hdone.imp_right fun ⟨hallow, hholding⟩ => ⟨hallow, ?_⟩⟩
  intro later hlater
  apply view_releaseHeld
  rw [hlater]
  exact hholding

def sampleProcess : Process where
  digit _ := none
  maxStrDigits := 4300
  isAlnum := Char.isAlphanum
  truncated := Number.mantissa
  environ _ := none
  currentNodeMemorySnapshot := []
  evaluateRunnerRequirements _ := none

def sampleCall : AdmissionCall where
  taskId := some "task"
  requirements :=
    { resourceClass := some "browser", browserContexts := 1, igProfileLock := some "profile"
      cpuWeight := 1, memoryMb := 512, browserStartupMemoryMb := 1024
      browserStartupSpacingSeconds := 0, memoryProfileId := none
      memoryReservationSource := none, visionLane := none, llmLane := none
      dbWriteBudget := "low", expectedDurationClass := "short" }
  profileCode := none
  availableSlots := some 1
  nodeMemorySnapshot := some [("available_bytes", integer (4096 * mib)),
    ("cgroup_limit_bytes", integer (4096 * mib)), ("total_bytes", integer (8192 * mib))]
  ownerId := "runner"
  ttlSeconds := 120
  delaySeconds := 30
  now := 0

def emptyStores : Stores (Dictionary.Dict String Held) SoundDb where
  leases := ∅
  budgets := some ⟨.empty, 0, BudgetBounds.sound_empty (le_refl 0)⟩

theorem admission_all_or_nothing_sample :
    GivesBack redisResourceLeaseStore (redisNodeBudgetStore id) 0 "runner" emptyStores
      (acquireTaskResourceAdmission sampleProcess redisResourceLeaseStore
        (redisNodeBudgetStore id) 0 sampleCall emptyStores) := by
  refine admission_all_or_nothing sampleProcess _ _ 0 sampleCall emptyStores ?_ rfl rfl
  intro ttlSeconds httl
  have hbounds : 0 < ttlSeconds ∧ ttlSeconds ≤ 300 := by
    change ttlSeconds = 120 ∨ _ at httl
    omega
  have hexpirable : ∀ seconds : ℤ, seconds ≤ 1200 → Redis.Collection.Expirable 0 seconds := by
    intro seconds hle
    have hcast : (seconds : ℚ) ≤ 1200 := by exact_mod_cast hle
    unfold Redis.Collection.Expirable
    linarith
  exact ⟨⟨hbounds.1, hexpirable _ (by omega)⟩, hexpirable _ (max_le (by decide) (by omega))⟩

end MindscapeLocalCore.RunnerResources.Admission
