import MindscapeLocalCore.Library.HashChain
import MindscapeLocalCore.Library.JsonText
import MindscapeLocalCore.Library.PythonInt
import MindscapeLocalCore.RunnerResources.ResourceStores

/-!
What a task asks for, the policy and the bytes that the node budget resolves from it, and the
gate that spaces the cold starts of browsers. Numbers of a snapshot are finite.
-/

namespace MindscapeLocalCore.RunnerResources.BrowserStartupGate

open Library Library.Json Library.PythonText Leases NodeBudgetContract

structure ResourceRequirements where
  resourceClass : Option String
  browserContexts : ℤ
  igProfileLock : Option String
  cpuWeight : ℤ
  memoryMb : ℤ
  browserStartupMemoryMb : ℤ
  browserStartupSpacingSeconds : ℤ
  memoryProfileId : Option String
  memoryReservationSource : Option String
  visionLane : Option String
  llmLane : Option String
  dbWriteBudget : String
  expectedDurationClass : String

def optionalText (value : Option String) : Json := value.elim .null .str

def integer (value : ℤ) : Json := .num (.int value)

def ResourceRequirements.toDict (r : ResourceRequirements) : Dict :=
  [("browser_contexts", integer r.browserContexts),
    ("browser_startup_memory_mb", integer r.browserStartupMemoryMb),
    ("browser_startup_spacing_seconds", integer r.browserStartupSpacingSeconds),
    ("cpu_weight", integer r.cpuWeight),
    ("db_write_budget", .str r.dbWriteBudget),
    ("expected_duration_class", .str r.expectedDurationClass),
    ("ig_profile_lock", optionalText r.igProfileLock),
    ("llm_lane", optionalText r.llmLane),
    ("memory_mb", integer r.memoryMb),
    ("memory_profile_id", optionalText r.memoryProfileId),
    ("memory_reservation_source", optionalText r.memoryReservationSource),
    ("resource_class", optionalText r.resourceClass),
    ("vision_lane", optionalText r.visionLane)]

structure HostResourceAdvice where
  allow : Bool
  decision : String
  reason : Option String
  payload : Dict

/-- What the code asks of Python, of its environment and of the host. -/
structure Process where
  digit : Char → Option ℕ
  maxStrDigits : ℕ
  isAlnum : Char → Bool
  truncated : Number → ℤ
  environ : String → Option String
  currentNodeMemorySnapshot : Dict
  evaluateRunnerRequirements : ResourceRequirements → Option HostResourceAdvice

variable (p : Process) {σ : Type} (leaseStore : ResourceLeaseStore σ) (now : ℚ)
  (requirements : ResourceRequirements) (snapshot : Dict) (ownerId : String)

/-- `text or default` -/
def orDefault (text default : String) : String := if text = "" then default else text

/-- `int(value or 0)`, which may raise a `TypeError` or a `ValueError`. -/
def Process.intOrZero : Option Json → Option ℤ
  | none | some .null | some (.str "") | some (.arr []) | some (.obj []) => some 0
  | some (.bool value) => some (if value then 1 else 0)
  | some (.num (.int value)) => some value
  | some (.num value) => some (p.truncated value)
  | some (.str text) => PythonInt.parseInt p.digit p.maxStrDigits text
  | some _ => none

def Process.positiveInt (value : Option Json) : ℤ := max 0 ((p.intOrZero value).getD 0)

def Process.environInt (name : String) : ℤ := p.positiveInt ((p.environ name).map .str)

/-! ### Lease keys and fingerprints -/

def hexdigest (text : String) : List Char := Hex.hexText 64 (Sha256.sha256 text.toUTF8).toNat

def normalizeKeyPart (value : String) : String :=
  let normalized := (strip value).toList.map fun c =>
    if p.isAlnum c ∨ c ∈ ['-', '_', '.'] then c else '_'
  let stripped := ((normalized.dropWhile (· = '_')).reverse.dropWhile (· = '_')).reverse
  orDefault (String.ofList (stripped.take 64)) "default"

def buildResourceLeaseKey (resourceType resourceId : String) : String :=
  let normalizedId := orDefault (strip (orDefault resourceId "default")) "default"
  "mindscape:runner_resources:lease:v1:" ++ normalizeKeyPart p resourceType ++ ":" ++
    normalizeKeyPart p normalizedId ++ ":" ++ String.ofList ((hexdigest normalizedId).take 16)

def compact : JsonText.Style where
  itemSeparator := ","
  keySeparator := ":"
  number n := toString n.mantissa

def fingerprintPayload (payload : Dict) : String :=
  String.ofList (hexdigest (JsonText.renderAscii compact (.obj payload)))

def resourceProfileFingerprint (requestBytes : ℤ) : String :=
  fingerprintPayload (requirements.toDict.set "resolved_request_bytes" (integer requestBytes))

/-! ### The policy and the bytes -/

def mib : ℤ := 1024 * 1024

def Process.envMb (name : String) : Option ℤ := do
  let raw ← p.environ name
  if strip raw = "" then none
  else (PythonInt.parseInt p.digit p.maxStrDigits (strip raw)).filter (0 ≤ ·)

def policyOf (mode : String) (totalBytes overheadBytes nonBrowserBytes browserIdleBytes : ℤ) :
    NodeBudgetPolicy :=
  let allocatable := max 0 (totalBytes - overheadBytes - nonBrowserBytes - browserIdleBytes)
  { mode, totalBytes
    vmOverheadPeakBytes := overheadBytes
    nonBrowserPeakBytes := nonBrowserBytes
    browserIdlePeakBytes := browserIdleBytes
    allocatableBytes := allocatable
    fingerprint := fingerprintPayload
      [("allocatable_bytes", integer allocatable),
        ("browser_idle_peak_bytes", integer browserIdleBytes),
        ("mode", .str mode),
        ("non_browser_peak_bytes", integer nonBrowserBytes),
        ("total_bytes", integer totalBytes),
        ("vm_overhead_peak_bytes", integer overheadBytes)] }

def resolveNodeBudgetPolicy : Option NodeBudgetPolicy := do
  let totalBytes ← p.intOrZero (snapshot.get? "total_bytes")
  let cgroupLimitBytes ← p.intOrZero (snapshot.get? "cgroup_limit_bytes")
  if totalBytes ≤ 0 then none
  else match p.envMb "LOCAL_CORE_RUNNER_NODE_VM_OVERHEAD_PEAK_MB",
      p.envMb "LOCAL_CORE_RUNNER_NODE_NON_BROWSER_PEAK_MB",
      p.envMb "LOCAL_CORE_RUNNER_NODE_BROWSER_IDLE_PEAK_MB" with
    | some overheadMb, some nonBrowserMb, some browserIdleMb =>
        some (policyOf "calibrated" totalBytes (overheadMb * mib) (nonBrowserMb * mib)
          (browserIdleMb * mib))
    | _, _, _ =>
        if 0 < cgroupLimitBytes ∧ cgroupLimitBytes ≤ totalBytes then
          some (policyOf "bootstrap_full_cgroup" totalBytes (totalBytes - cgroupLimitBytes) 0 0)
        else none

def resolveBrowserRequestBytes : Option (ℤ × String) :=
  if 0 < requirements.memoryMb then
    some (requirements.memoryMb * mib, "playbook_steady_profile")
  else if 0 < requirements.browserStartupMemoryMb then
    some (requirements.browserStartupMemoryMb * mib, "playbook_startup_fallback")
  else match p.envMb "LOCAL_CORE_RUNNER_BROWSER_UNMEASURED_RESERVATION_MB" with
    | some observedFloorMb =>
        if 0 < observedFloorMb then some (observedFloorMb * mib, "observed_unmeasured_floor")
        else none
    | none => none

/-! ### The gate -/

structure BrowserStartupDecision where
  allow : Bool
  reason : Option String
  requestedBytes : ℤ
  requestSource : String
  spacingSeconds : ℤ
  slotCount : ℤ
  slotIndex : Option ℕ
  leaseKey : Option String

def resolveBrowserStartupRequestBytes : Option (ℤ × String) :=
  let explicitMb := max 0 requirements.browserStartupMemoryMb
  if 0 < explicitMb then some (explicitMb * mib, "playbook_startup_profile") else none

def resolveBrowserStartupSpacingSeconds : ℤ :=
  let explicit := max 0 requirements.browserStartupSpacingSeconds
  let configured := p.environInt "LOCAL_CORE_RUNNER_BROWSER_STARTUP_SPACING_SECONDS"
  let value := if explicit ≠ 0 then explicit else if configured ≠ 0 then configured else 30
  max 5 (min value 300)

def resolveBrowserStartupSlotCount : ℤ :=
  let configured := p.environInt "LOCAL_CORE_RUNNER_BROWSER_STARTUP_MAX_PARALLEL"
  let maxParallel := max 1 (min (if configured ≠ 0 then configured else 7) 7)
  match resolveBrowserStartupRequestBytes requirements with
  | none => 1
  | some (requestedBytes, _) =>
      let availableBytes := p.positiveInt (snapshot.get? "available_bytes")
      if requestedBytes ≤ 0 ∨ availableBytes < requestedBytes then 0
      else max 1 (min maxParallel (availableBytes / requestedBytes))

def browserStartupSlotLeaseKey (slotIndex : ℕ) : String :=
  if slotIndex = 0 then buildResourceLeaseKey p "browser_startup" "docker_vm"
  else buildResourceLeaseKey p "browser_startup" ("docker_vm_slot_" ++ toString (slotIndex + 1))

def takeSlot (spacingSeconds : ℤ) : List ℕ → σ → Option (Option (ℕ × String)) × σ
  | [], leases => (some none, leases)
  | slotIndex :: rest, leases =>
      let leaseKey := browserStartupSlotLeaseKey p slotIndex
      match leaseStore.acquire now leaseKey ownerId spacingSeconds leases with
      | (none, leases) => (none, leases)
      | (some true, leases) => (some (some (slotIndex, leaseKey)), leases)
      | (some false, leases) => takeSlot spacingSeconds rest leases

/-- `acquire_browser_startup_gate`, without a decision where the store raises. -/
def acquireBrowserStartupGate (leases : σ) : Option BrowserStartupDecision × σ :=
  let spacingSeconds := resolveBrowserStartupSpacingSeconds p requirements
  let (requestedBytes, requestSource) :=
    (resolveBrowserStartupRequestBytes requirements).getD (0, "unmeasured_spacing_only")
  let availableBytes := p.positiveInt (snapshot.get? "available_bytes")
  let slotCount := resolveBrowserStartupSlotCount p requirements snapshot
  if 0 < requestedBytes ∧ availableBytes < requestedBytes then
    (some ⟨false, some "browser_startup_headroom_unavailable", requestedBytes, requestSource,
      spacingSeconds, 0, none, none⟩, leases)
  else
    let (taken, leases) := takeSlot p leaseStore now ownerId spacingSeconds
      (List.range slotCount.toNat).reverse leases
    (taken.map fun
      | some (slotIndex, leaseKey) =>
          ⟨true, none, requestedBytes, requestSource, spacingSeconds, slotCount,
            some slotIndex, some leaseKey⟩
      | none =>
          ⟨false, some "browser_startup_spacing_active", requestedBytes, requestSource,
            spacingSeconds, slotCount, none, none⟩, leases)

variable {p leaseStore now requirements} {spacingSeconds : ℤ}

theorem spacing_bounds : 5 ≤ resolveBrowserStartupSpacingSeconds p requirements ∧
    resolveBrowserStartupSpacingSeconds p requirements ≤ 300 := by
  rw [resolveBrowserStartupSpacingSeconds]
  exact ⟨le_max_left _ _, max_le (by decide) (min_le_right _ _)⟩

theorem buildResourceLeaseKey_ne_empty {resourceType resourceId : String} :
    buildResourceLeaseKey p resourceType resourceId ≠ "" := by
  intro h
  unfold buildResourceLeaseKey at h
  simp only [String.append_eq_empty_iff] at h
  exact absurd h.1.1.1.1.1 (by decide +kernel)

theorem takeSlot_live (ownerId : String) (haccepts : leaseStore.Accepts now spacingSeconds)
    (slots : List ℕ) (leases : σ) :
    let out := takeSlot p leaseStore now ownerId spacingSeconds slots leases
    (out.1 = some none ∧ leaseStore.live now out.2 = leaseStore.live now leases) ∨
      ∃ slotIndex leaseKey expiresAt, out.1 = some (some (slotIndex, leaseKey)) ∧
        leaseKey ≠ "" ∧ leaseStore.live now leases leaseKey = none ∧
        leaseStore.live now out.2 =
          Function.update (leaseStore.live now leases) leaseKey (some ⟨ownerId, expiresAt⟩) := by
  induction slots generalizing leases with
  | nil => exact .inl ⟨rfl, rfl⟩
  | cons slotIndex rest ih =>
      have hacquire := leaseStore.acquire_live now (browserStartupSlotLeaseKey p slotIndex)
        ownerId spacingSeconds leases haccepts
      rw [takeSlot]
      generalize leaseStore.acquire now (browserStartupSlotLeaseKey p slotIndex) ownerId
        spacingSeconds leases = out at hacquire
      obtain ⟨answer, leases'⟩ := out
      rcases hacquire with ⟨rfl, hlive⟩ | ⟨rfl, hnone, expiresAt, hlive⟩
      · dsimp only at hlive ⊢
        rw [← hlive]
        exact ih leases'
      · refine .inr ⟨slotIndex, _, expiresAt, rfl, ?_, hnone, hlive⟩
        rw [browserStartupSlotLeaseKey]
        split <;> exact buildResourceLeaseKey_ne_empty

theorem gate_live (snapshot : Dict) (ownerId : String) (leases : σ)
    (haccepts : leaseStore.Accepts now (resolveBrowserStartupSpacingSeconds p requirements)) :
    let out := acquireBrowserStartupGate p leaseStore now requirements snapshot ownerId leases
    ∃ decision, out.1 = some decision ∧
      ((decision.allow = false ∧ leaseStore.live now out.2 = leaseStore.live now leases) ∨
        ∃ leaseKey expiresAt, decision.allow = true ∧ decision.leaseKey = some leaseKey ∧
          leaseKey ≠ "" ∧ leaseStore.live now leases leaseKey = none ∧
          leaseStore.live now out.2 = Function.update (leaseStore.live now leases) leaseKey
            (some ⟨ownerId, expiresAt⟩)) := by
  rw [acquireBrowserStartupGate]
  dsimp only
  split
  · exact ⟨_, rfl, .inl ⟨rfl, rfl⟩⟩
  · rcases takeSlot_live (p := p) ownerId haccepts
      (List.range (resolveBrowserStartupSlotCount p requirements snapshot).toNat).reverse leases with
      ⟨hnone, hlive⟩ | ⟨slotIndex, leaseKey, expiresAt, htaken, hkey, hfree, hlive⟩
    · rw [hnone]
      exact ⟨_, rfl, .inl ⟨rfl, hlive⟩⟩
    · rw [htaken]
      exact ⟨_, rfl, .inr ⟨leaseKey, expiresAt, rfl, rfl, hkey, hfree, hlive⟩⟩

end MindscapeLocalCore.RunnerResources.BrowserStartupGate
