import Mathlib.Data.List.Chain
import Mathlib.Data.List.Range
import Mathlib.Data.List.Rotate
import Mathlib.Data.Nat.ModEq
import Mathlib.Logic.Function.Basic
import MindscapeLocalCore.Library.PythonText
import MindscapeLocalCore.Library.Redis

/-!
The scan of the ready queues for browser fairness. A counter for each queue says where the next scan
begins; a scan reads so many tasks from there, and goes on at the head of the queue.
-/

namespace MindscapeLocalCore.RunnerQueue.FairnessScan

open Library.PythonText Library.Redis Library.RedisList

/-! ### Counters -/

structure Counter where
  value : ℤ
  deadline : Option ℚ

abbrev Counters := String → Option Counter

def found (now : ℚ) (key : String) (counters : Counters) : Option Counter :=
  (counters key).filter fun counter =>
    match counter.deadline with
    | some deadline => decide (now ≤ deadline)
    | none => true

def valueAt (now : ℚ) (key : String) (counters : Counters) : ℤ :=
  ((found now key counters).map Counter.value).getD 0

/-- `INCRBY`; none where the value does not fit into 64 bits. -/
def incrby (now : ℚ) (key : String) (amount : ℤ) (counters : Counters) : Option (ℤ × Counters) :=
  let value := valueAt now key counters + amount
  if -2 ^ 63 ≤ value ∧ value < 2 ^ 63 then
    some (value, Function.update counters key
      (some ⟨value, (found now key counters).bind Counter.deadline⟩))
  else none

/-- `EXPIRE`; none where the server does not take the deadline. -/
def expire (now : ℚ) (key : String) (seconds : ℤ) (counters : Counters) : Option Counters :=
  if Collection.Expirable now seconds then
    some (Function.update counters key ((found now key counters).map fun counter =>
      { counter with deadline := some (now + seconds) }))
  else none

/-! ### Offsets -/

def scanCursorKeyPrefix : String := "mindscape:runner:browser_fair_scan_cursor:v1"

def cursorTtlSeconds : ℤ := 7 * 24 * 60 * 60

def browserFairnessScanCursorKey (queueShard queueName : String) : Except String String :=
  if strip queueShard = "" then .error "queue_shard_required"
  else if strip queueName = "" then .error "queue_name_required"
  else .ok (scanCursorKeyPrefix ++ ":" ++ strip queueShard ++ ":" ++ strip queueName)

def claimBrowserFairnessScanOffset (now : ℚ) (queueShard queueName : String)
    (queueLength scanLimit ttlSeconds : ℤ) (counters : Counters) : Except String ℤ × Counters :=
  if queueLength ≤ 0 then (.ok 0, counters)
  else if scanLimit ≤ 0 then (.error "scan_limit_must_be_positive", counters)
  else if queueLength ≤ scanLimit then (.ok 0, counters)
  else
    match browserFairnessScanCursorKey queueShard queueName with
    | .error message => (.error message, counters)
    | .ok key =>
        match incrby now key scanLimit counters with
        | none => (.error "increment or decrement would overflow", counters)
        | some (nextOffset, counters) =>
            let ttl := max 60 (if ttlSeconds = 0 then cursorTtlSeconds else ttlSeconds)
            match expire now key ttl counters with
            | none => (.error "invalid expire time", counters)
            | some counters => (.ok (max 0 (nextOffset - scanLimit) % queueLength), counters)

/-! ### Windows -/

/-- What a scan reads of a queue: where it begins, and the tasks. -/
structure Window (α : Type) where
  scanStart : ℤ
  candidateIds : List α

variable {α : Type}

def candidateIds (scanStart scanCount : ℤ) (pending : List α) : List α :=
  let firstEnd : ℤ := min (pending.length - 1) (scanStart + scanCount - 1)
  let first := lrange scanStart firstEnd pending
  let remaining := scanCount - first.length
  if 0 < remaining ∧ 0 < scanStart then first ++ lrange 0 (remaining - 1) pending else first

def scanQueue (now : ℚ) (queueShard queueName : String) (scanLimit : ℤ) (pending : List α)
    (counters : Counters) : Except String (Window α) × Counters :=
  let queueLength : ℤ := pending.length
  if queueLength ≤ 0 then (.ok ⟨0, []⟩, counters)
  else
    let scanCount := min scanLimit queueLength
    match claimBrowserFairnessScanOffset now queueShard queueName queueLength scanLimit
        cursorTtlSeconds counters with
    | (.error message, counters) => (.error message, counters)
    | (.ok scanStart, counters) =>
        (.ok ⟨scanStart, candidateIds scanStart scanCount pending⟩, counters)

def Window.positions (window : Window α) (queueLength : ℤ) : List ℤ :=
  (List.range window.candidateIds.length).map fun i : ℕ => (window.scanStart + i) % queueLength

def scans (queueShard queueName : String) (scanLimit : ℤ) (pending : List α) :
    List ℚ → Counters → List (Except String (Window α))
  | [], _ => []
  | now :: later, counters =>
      let (result, counters) := scanQueue now queueShard queueName scanLimit pending counters
      result :: scans queueShard queueName scanLimit pending later counters

def ReadsAll (pending : List α) (windows : List (Window α)) : Prop :=
  ∀ position : ℤ, 0 ≤ position → position < pending.length →
    ∃ window ∈ windows, position ∈ window.positions pending.length

/-- A window reads as many tasks as it may, no position twice, and at each position the task that
is there. -/
structure Reads (pending : List α) (scanLimit : ℤ) (window : Window α) : Prop where
  length : (window.positions pending.length).length = min (pending.length : ℤ) scanLimit
  nodup : (window.positions pending.length).Nodup
  tasks : window.candidateIds.map some =
    (window.positions pending.length).map fun position => pending[position.toNat]?

/-- The scans count on from a value: the counter does not lapse between two of them, and the server
takes its values and deadlines. -/
structure Uninterrupted (queueShard queueName : String) (scanLimit start : ℤ) (times : List ℚ)
    (counters : Counters) : Prop where
  named : (browserFairnessScanCursorKey queueShard queueName).isOk
  starts : ∀ key, browserFairnessScanCursorKey queueShard queueName = .ok key →
    ∀ now ∈ times.head?, valueAt now key counters = start
  prompt : times.IsChain fun now later : ℚ => later ≤ now + cursorTtlSeconds
  expirable : ∀ now ∈ times, Collection.Expirable now cursorTtlSeconds
  low : -2 ^ 63 ≤ start
  high : start + scanLimit * times.length < 2 ^ 63

variable {pending : List α} {window : Window α} {windows : List (Window α)}
  {scanLimit start offset : ℤ} {queueShard queueName : String} {counters : Counters} {now : ℚ}
  {times : List ℚ}

/-! ### One window -/

theorem candidateIds_eq {begin count : ℕ} (hbegin : begin < pending.length) (hcount : 0 < count)
    (hle : count ≤ pending.length) :
    candidateIds begin count pending = (pending.rotate begin).take count := by
  rw [List.rotate_eq_drop_append_take hbegin.le, candidateIds]
  by_cases hfits : begin + count ≤ pending.length
  · have hend : min ((pending.length : ℤ) - 1) (begin + count - 1) = begin + count - 1 :=
      min_eq_right (by omega)
    have hlength : ((begin : ℤ) + count - 1 - begin + 1).toNat = count := by omega
    have hfirst : lrange begin (begin + count - 1) pending = (pending.drop begin).take count := by
      rw [lrange_eq (Int.natCast_nonneg _) (by omega) (by omega), hlength, Int.toNat_natCast]
    rw [hend, hfirst, List.take_append_of_le_length (by rw [List.length_drop]; omega), if_neg]
    rw [List.length_take, List.length_drop]
    omega
  · -- The head of the queue is read for what the tail does not give.
    have hend : min ((pending.length : ℤ) - 1) (begin + count - 1) = pending.length - 1 :=
      min_eq_left (by omega)
    have hlength : ((pending.length : ℤ) - 1 - begin + 1).toNat = pending.length - begin := by
      omega
    have hfirst : lrange begin ((pending.length : ℤ) - 1) pending = pending.drop begin := by
      rw [lrange_eq (Int.natCast_nonneg _) (by omega) (by omega), hlength, Int.toNat_natCast]
      exact List.take_of_length_le (by rw [List.length_drop])
    have hremaining : ((count : ℤ) - (pending.length - begin : ℕ) - 1 - 0 + 1).toNat =
        count - (pending.length - begin) := by omega
    have hrest : lrange 0 ((count : ℤ) - (pending.length - begin : ℕ) - 1) pending =
        pending.take (count - (pending.length - begin)) := by
      rw [lrange_eq le_rfl (by omega) (by omega), hremaining]
      rfl
    have hwhole : (pending.drop begin).take count = pending.drop begin :=
      List.take_of_length_le (by rw [List.length_drop]; omega)
    rw [hend, hfirst, List.length_drop, if_pos ⟨by omega, by omega⟩, hrest, List.take_append, hwhole,
      List.length_drop, List.take_take, min_eq_left (by omega)]

theorem mem_positions {position : ℤ} : position ∈ window.positions pending.length ↔
    ∃ i < window.candidateIds.length, (window.scanStart + i) % pending.length = position := by
  rw [Window.positions, List.mem_map]
  exact exists_congr fun i => and_congr_left' List.mem_range

theorem reads_window (hlimit : 0 < scanLimit) (hoffset : 0 ≤ offset)
    (hlt : offset < pending.length) :
    Reads pending scanLimit
      ⟨offset, candidateIds offset (min scanLimit pending.length) pending⟩ := by
  obtain ⟨begin, rfl⟩ := Int.eq_ofNat_of_zero_le hoffset
  obtain ⟨count, hcount⟩ := Int.eq_ofNat_of_zero_le
    (show 0 ≤ min scanLimit (pending.length : ℤ) by omega)
  have hbegin : begin < pending.length := by omega
  have hle : count ≤ pending.length := by omega
  have hids := candidateIds_eq hbegin (show 0 < count by omega) hle
  have hlength : (candidateIds begin count pending).length = count := by
    rw [hids, List.length_take, List.length_rotate, min_eq_left hle]
  rw [hcount]
  refine ⟨?_, ?_, ?_⟩
  · rw [Window.positions, List.length_map, List.length_range, hlength, min_comm, hcount]
  · refine List.Nodup.map_on (fun i hi j hj hsame => ?_) List.nodup_range
    rw [List.mem_range, hlength] at hi hj
    dsimp only at hsame
    have hmod : ((begin + i : ℕ) : ℤ) % pending.length = ((begin + j : ℕ) : ℤ) % pending.length := by
      push_cast
      exact hsame
    have hnat : (begin + i) % pending.length = (begin + j) % pending.length := by
      exact_mod_cast hmod
    have hcancel := Nat.ModEq.add_left_cancel' begin hnat
    exact Nat.ModEq.eq_of_lt_of_lt hcancel (by omega) (by omega)
  · rw [Window.positions, List.map_map, hlength, hids]
    refine List.ext_getElem? fun i => ?_
    rw [List.getElem?_map, List.getElem?_take, List.getElem?_map]
    by_cases hi : i < count
    · have hposition : ((begin + i : ℤ) % pending.length).toNat = (i + begin) % pending.length := by
        rw [add_comm i begin]
        exact_mod_cast Int.toNat_natCast ((begin + i) % pending.length)
      have hin : (i + begin) % pending.length < pending.length := Nat.mod_lt _ (by omega)
      rw [if_pos hi, List.getElem?_rotate (by omega), List.getElem?_range hi]
      show _ = some (pending[((begin + i : ℤ) % pending.length).toNat]?)
      rw [hposition, List.getElem?_eq_getElem hin]
      rfl
    · rw [if_neg hi, List.getElem?_eq_none (by rw [List.length_range]; omega)]
      rfl

/-! ### Runs of scans -/

def windowFrom (pending : List α) (scanLimit value : ℤ) : Window α :=
  let offset := if (pending.length : ℤ) ≤ scanLimit then 0 else max 0 value % pending.length
  ⟨offset, candidateIds offset (min scanLimit pending.length) pending⟩

theorem windowFrom_reads (hlimit : 0 < scanLimit) (hne : 0 < pending.length) (value : ℤ) :
    Reads pending scanLimit (windowFrom pending scanLimit value) := by
  have hpos : (0 : ℤ) < pending.length := by omega
  rw [windowFrom]
  split
  · exact reads_window hlimit le_rfl hpos
  · exact reads_window hlimit (Int.emod_nonneg _ hpos.ne') (Int.emod_lt_of_pos _ hpos)

theorem scanQueue_short (hne : 0 < pending.length) (hshort : (pending.length : ℤ) ≤ scanLimit)
    (value : ℤ) : scanQueue now queueShard queueName scanLimit pending counters =
      (.ok (windowFrom pending scanLimit value), counters) := by
  have hclaim : claimBrowserFairnessScanOffset now queueShard queueName pending.length scanLimit
      cursorTtlSeconds counters = (.ok 0, counters) := by
    rw [claimBrowserFairnessScanOffset, if_neg (by omega), if_neg (by omega), if_pos hshort]
  rw [scanQueue, hclaim, windowFrom, if_pos hshort]
  exact if_neg (by omega)

theorem valueAt_update {key : String} {counter : Counter} (h : ∀ deadline ∈ counter.deadline,
    now ≤ deadline) : valueAt now key (Function.update counters key (some counter)) =
      counter.value := by
  have hfound : found now key (Function.update counters key (some counter)) = some counter := by
    rw [found, Function.update_self, Option.filter_some, if_pos]
    cases hdeadline : counter.deadline with
    | none => rfl
    | some deadline => exact decide_eq_true (h deadline hdeadline)
  rw [valueAt, hfound]
  rfl

theorem scanQueue_long (hlimit : 0 < scanLimit) (hlong : scanLimit < pending.length)
    (h : Uninterrupted queueShard queueName scanLimit start (now :: times) counters) :
    ∃ counters', scanQueue now queueShard queueName scanLimit pending counters =
        (.ok (windowFrom pending scanLimit start), counters') ∧
      Uninterrupted queueShard queueName scanLimit (start + scanLimit) times counters' := by
  obtain ⟨key, hkey⟩ : ∃ key, browserFairnessScanCursorKey queueShard queueName = .ok key := by
    cases hkey : browserFairnessScanCursorKey queueShard queueName with
    | ok key => exact ⟨key, rfl⟩
    | error message =>
        have hnamed := h.named
        rw [hkey] at hnamed
        cases hnamed
  have hstart : valueAt now key counters = start := h.starts key hkey now rfl
  have hhigh := h.high
  have hlow := h.low
  rw [List.length_cons, Nat.cast_add, Nat.cast_one, mul_add, mul_one] at hhigh
  have hrest : 0 ≤ scanLimit * times.length := mul_nonneg hlimit.le (Int.natCast_nonneg _)
  -- The counter is raised, and its deadline put off.
  set deadline := (found now key counters).bind Counter.deadline with hdeadline
  have hincrby : incrby now key scanLimit counters = some (start + scanLimit,
      Function.update counters key (some ⟨start + scanLimit, deadline⟩)) := by
    rw [incrby, hstart]
    exact if_pos ⟨by omega, by omega⟩
  have hkept : found now key (Function.update counters key (some ⟨start + scanLimit, deadline⟩)) =
      some ⟨start + scanLimit, deadline⟩ := by
    rw [found, Function.update_self, Option.filter_some, if_pos]
    cases hlapses : deadline with
    | none => rfl
    | some last =>
        obtain ⟨counter, hcounter, hlast⟩ := Option.bind_eq_some_iff.mp (hdeadline ▸ hlapses)
        have hpassed := (Option.filter_eq_some_iff.mp hcounter).2
        rw [hlast] at hpassed
        exact hpassed
  have httl : max 60 (if cursorTtlSeconds = 0 then cursorTtlSeconds else cursorTtlSeconds) =
      cursorTtlSeconds := by decide
  have hexpire := h.expirable now List.mem_cons_self
  refine ⟨Function.update (Function.update counters key (some ⟨start + scanLimit, deadline⟩)) key
    (some ⟨start + scanLimit, some (now + cursorTtlSeconds)⟩), ?_, ?_⟩
  · rw [scanQueue, claimBrowserFairnessScanOffset, if_neg (by omega), if_neg (by omega),
      if_neg (by omega), if_neg (by omega), hkey]
    dsimp only
    rw [hincrby]
    dsimp only
    rw [expire, httl, if_pos hexpire, hkept, windowFrom, if_neg (not_le.mpr hlong),
      add_sub_cancel_right]
    rfl
  · have hchain := List.isChain_cons.mp h.prompt
    refine ⟨h.named, fun other hother later hlater => ?_, hchain.2,
      fun later hlater => h.expirable later (List.mem_cons_of_mem _ hlater), by omega, by omega⟩
    obtain rfl := Except.ok.inj (hkey.symm.trans hother)
    refine valueAt_update fun last hlast => ?_
    obtain rfl := Option.some.inj hlast
    exact hchain.1 later hlater

theorem scans_eq (hlimit : 0 < scanLimit) (hne : 0 < pending.length)
    (h : scanLimit < pending.length →
      Uninterrupted queueShard queueName scanLimit start times counters) :
    scans queueShard queueName scanLimit pending times counters =
      (List.range times.length).map fun i : ℕ =>
        .ok (windowFrom pending scanLimit (start + scanLimit * i)) := by
  induction times generalizing start counters with
  | nil => rfl
  | cons now later ih =>
      have hstep : ∃ counters', scanQueue now queueShard queueName scanLimit pending counters =
            (.ok (windowFrom pending scanLimit start), counters') ∧
          (scanLimit < pending.length →
            Uninterrupted queueShard queueName scanLimit (start + scanLimit) later counters') := by
        by_cases hlong : scanLimit < pending.length
        · obtain ⟨counters', hscan, hcounts⟩ := scanQueue_long hlimit hlong (h hlong)
          exact ⟨counters', hscan, fun _ => hcounts⟩
        · exact ⟨counters, scanQueue_short hne (not_lt.mp hlong) start,
            fun hlong' => absurd hlong' hlong⟩
      obtain ⟨counters', hscan, hcounts⟩ := hstep
      rw [scans, hscan, List.length_cons, List.range_succ_eq_map, List.map_cons, List.map_map]
      dsimp only
      rw [ih hcounts, Nat.cast_zero, mul_zero, add_zero]
      refine congrArg _ (List.map_congr_left fun i _ => ?_)
      rw [Function.comp_apply, Nat.cast_succ, mul_add, mul_one, add_assoc, add_comm scanLimit]

/-! ### What the scans read -/

theorem mem_windowFrom {value position : ℤ} (hlong : scanLimit < pending.length)
    (hlimit : 0 < scanLimit) : position ∈ (windowFrom pending scanLimit value).positions pending.length ↔
      ∃ i : ℕ, (i : ℤ) < scanLimit ∧
        (max 0 value % pending.length + i) % pending.length = position := by
  have hreads : Reads pending scanLimit (windowFrom pending scanLimit value) :=
    windowFrom_reads hlimit (by omega) value
  have hcount : ((windowFrom pending scanLimit value).candidateIds.length : ℤ) = scanLimit := by
    have hlength := hreads.length
    rw [Window.positions, List.length_map, List.length_range] at hlength
    rw [hlength]
    exact min_eq_right hlong.le
  have hstart : (windowFrom pending scanLimit value).scanStart = max 0 value % pending.length := by
    rw [windowFrom, if_neg (not_le.mpr hlong)]
  rw [mem_positions, hstart]
  exact exists_congr fun i => and_congr_left' (by omega)

variable {count : ℕ}

theorem exists_scan {distance : ℤ} (hlimit : 0 < scanLimit) (hdist : 0 ≤ distance)
    (hlt : distance < scanLimit * count) :
    ∃ i < count, ∃ j : ℕ, (j : ℤ) < scanLimit ∧ scanLimit * (i : ℤ) + j = distance := by
  obtain ⟨i, hi⟩ := Int.eq_ofNat_of_zero_le (Int.ediv_nonneg hdist hlimit.le)
  obtain ⟨j, hj⟩ := Int.eq_ofNat_of_zero_le (Int.emod_nonneg distance hlimit.ne')
  have hsplit : scanLimit * (i : ℤ) + j = distance := by
    rw [← hi, ← hj]
    exact Int.mul_ediv_add_emod distance scanLimit
  have hless : scanLimit * (i : ℤ) < scanLimit * count := by omega
  have hilt : (i : ℤ) < count := lt_of_mul_lt_mul_left hless hlimit.le
  exact ⟨i, by exact_mod_cast hilt, j, hj ▸ Int.emod_lt_of_pos _ hlimit, hsplit⟩

theorem readsAll_of_nonneg (hlimit : 0 < scanLimit) (hlong : scanLimit < pending.length)
    (hcount : pending.length ≤ scanLimit * count) (hstart : 0 ≤ start) :
    ReadsAll pending ((List.range count).map fun i : ℕ =>
      windowFrom pending scanLimit (start + scanLimit * i)) := by
  intro position hpos hlt
  set distance := (position - start) % pending.length with hdistance
  have hdist : 0 ≤ distance := Int.emod_nonneg _ (by omega)
  have hdistlt : distance < pending.length := Int.emod_lt_of_pos _ (by omega)
  obtain ⟨i, hilt, j, hjlt, hsplit⟩ := exists_scan hlimit hdist (hdistlt.trans_le hcount)
  refine ⟨_, List.mem_map.mpr ⟨i, List.mem_range.mpr hilt, rfl⟩, ?_⟩
  rw [mem_windowFrom hlong hlimit]
  refine ⟨j, hjlt, ?_⟩
  have hvalue : 0 ≤ start + scanLimit * i :=
    add_nonneg hstart (mul_nonneg hlimit.le (Int.natCast_nonneg i))
  rw [max_eq_right hvalue, Int.emod_add_emod, add_assoc, hsplit, hdistance, Int.add_emod_emod,
    add_sub_cancel, Int.emod_eq_of_lt hpos hlt]

theorem readsAll_of_negative (hlimit : 0 < scanLimit) (hlong : scanLimit < pending.length)
    (hstart : start < 0) : ReadsAll pending ((List.range count).map fun i : ℕ =>
      windowFrom pending scanLimit (start + scanLimit * i)) ↔
        pending.length ≤ start + scanLimit * count := by
  constructor
  · -- The last position is not read before.
    intro h
    obtain ⟨window, hwindow, hmem⟩ := h (pending.length - 1) (by omega) (by omega)
    obtain ⟨i, hi, rfl⟩ := List.mem_map.mp hwindow
    rw [mem_windowFrom hlong hlimit] at hmem
    obtain ⟨j, hj, hlast⟩ := hmem
    by_contra hshort
    have hnext : scanLimit * ((i : ℤ) + 1) ≤ scanLimit * count :=
      mul_le_mul_of_nonneg_left (by exact_mod_cast List.mem_range.mp hi) hlimit.le
    rw [mul_add, mul_one] at hnext
    rw [Int.emod_add_emod, Int.emod_eq_of_lt (by omega) (by omega)] at hlast
    omega
  · intro h position hpos hlt
    by_cases hfirst : position < scanLimit
    · have hcount : 0 < count := by
        rcases Nat.eq_zero_or_pos count with rfl | hcount
        · rw [Nat.cast_zero, mul_zero] at h
          omega
        · exact hcount
      refine ⟨_, List.mem_map.mpr ⟨0, List.mem_range.mpr hcount, rfl⟩, ?_⟩
      rw [mem_windowFrom hlong hlimit]
      refine ⟨position.toNat, by omega, ?_⟩
      rw [Nat.cast_zero, mul_zero, add_zero, max_eq_left hstart.le, Int.zero_emod, zero_add,
        Int.toNat_of_nonneg hpos, Int.emod_eq_of_lt hpos hlt]
    · set distance := position - start with hdistance
      have hdist : 0 ≤ distance := by omega
      obtain ⟨i, hilt, j, hjlt, hsplit⟩ : ∃ i < count, ∃ j : ℕ, (j : ℤ) < scanLimit ∧
          scanLimit * (i : ℤ) + j = distance := exists_scan hlimit hdist (by omega)
      refine ⟨_, List.mem_map.mpr ⟨i, List.mem_range.mpr hilt, rfl⟩, ?_⟩
      rw [mem_windowFrom hlong hlimit]
      refine ⟨j, hjlt, ?_⟩
      have hvalue : start + scanLimit * i = position - j := by omega
      rw [hvalue, max_eq_right (by omega), Int.emod_add_emod, sub_add_cancel,
        Int.emod_eq_of_lt hpos hlt]

/-- As many scans of a queue as its length asks for read one window each, and every position
exactly where the queue is within the limit, the counter was not negative, or it has come as far
as the queue is long. -/
theorem scans_read_all_iff (pending : List α) (scanLimit : ℤ) (hlimit : 0 < scanLimit)
    (queueShard queueName : String) (start : ℤ) (times : List ℚ) (counters : Counters)
    (hcalls : (times.length : ℤ) = (pending.length + scanLimit - 1) / scanLimit)
    (h : scanLimit < pending.length →
      Uninterrupted queueShard queueName scanLimit start times counters) :
    ∃ windows : List (Window α),
      scans queueShard queueName scanLimit pending times counters = windows.map .ok ∧
      (∀ window ∈ windows, Reads pending scanLimit window) ∧
      (ReadsAll pending windows ↔ pending.length ≤ scanLimit ∨ 0 ≤ start ∨
        pending.length ≤ start + scanLimit * times.length) := by
  rcases Nat.eq_zero_or_pos pending.length with hempty | hne
  · -- An empty queue asks for no scan.
    have htimes : times = [] := by
      rw [hempty, Nat.cast_zero, zero_add, Int.ediv_eq_zero_of_lt (by omega) (by omega)] at hcalls
      exact List.length_eq_zero_iff.mp (by omega)
    refine ⟨[], by rw [htimes]; rfl, fun _ hwindow => absurd hwindow List.not_mem_nil, ?_⟩
    refine iff_of_true (fun position hpos hlt => ?_) (.inl (by omega))
    omega
  · refine ⟨(List.range times.length).map fun i : ℕ =>
      windowFrom pending scanLimit (start + scanLimit * i), ?_, ?_, ?_⟩
    · rw [scans_eq hlimit hne h, List.map_map]
      rfl
    · intro window hwindow
      obtain ⟨i, -, rfl⟩ := List.mem_map.mp hwindow
      exact windowFrom_reads hlimit hne _
    · have hceil : (pending.length : ℤ) ≤ scanLimit * times.length := by
        have hdivision := Int.lt_ediv_add_one_mul_self ((pending.length : ℤ) + scanLimit - 1) hlimit
        rw [← hcalls, add_mul, one_mul, mul_comm] at hdivision
        omega
      by_cases hshort : (pending.length : ℤ) ≤ scanLimit
      · refine iff_of_true (fun position hpos hlt => ?_) (.inl hshort)
        have hcalled : 0 < times.length := by
          rcases Nat.eq_zero_or_pos times.length with hzero | hcalled
          · rw [hzero, Nat.cast_zero, mul_zero] at hceil
            omega
          · exact hcalled
        refine ⟨_, List.mem_map.mpr ⟨0, List.mem_range.mpr hcalled, rfl⟩, mem_positions.mpr
          ⟨position.toNat, ?_, ?_⟩⟩
        · have hlength := (windowFrom_reads hlimit hne (start + scanLimit * (0 : ℕ))).length
          rw [Window.positions, List.length_map, List.length_range, min_eq_left hshort] at hlength
          omega
        · rw [windowFrom, if_pos hshort, Int.toNat_of_nonneg hpos, zero_add,
            Int.emod_eq_of_lt hpos hlt]
      · rw [or_iff_right hshort]
        have hlong := not_le.mp hshort
        by_cases hstart : 0 ≤ start
        · exact iff_of_true (readsAll_of_nonneg hlimit hlong hceil hstart) (.inl hstart)
        · rw [or_iff_right hstart]
          exact readsAll_of_negative hlimit hlong (not_le.mp hstart)

theorem scans_read_all_four : ∃ windows : List (Window String),
    scans "shard" "pending" 2 ["a", "b", "c", "d"] [0, 60] (fun _ => none) = windows.map .ok ∧
    (∀ window ∈ windows, Reads ["a", "b", "c", "d"] 2 window) ∧
    (ReadsAll ["a", "b", "c", "d"] windows ↔ (4 : ℤ) ≤ 2 ∨ (0 : ℤ) ≤ 0 ∨ (4 : ℤ) ≤ 0 + 2 * 2) :=
  scans_read_all_iff ["a", "b", "c", "d"] 2 (by decide) "shard" "pending" 0 [0, 60] (fun _ => none)
    (by decide) fun _ =>
      { named := by decide +kernel
        starts := fun _ _ _ _ => rfl
        prompt := by decide +kernel
        expirable := by decide +kernel
        low := by decide
        high := by decide }

def windowsOf (results : List (Except String (Window α))) : List (Window α) :=
  results.filterMap Except.toOption

/-- A counter below zero, and a counter that lapses between two scans, keep two scans from reading
four tasks. -/
theorem scans_miss_tasks :
    ¬ ReadsAll ["a", "b", "c", "d"] (windowsOf (scans "shard" "pending" 2 ["a", "b", "c", "d"]
      [0, 60] fun _ => some ⟨-1, none⟩)) ∧
    ¬ ReadsAll ["a", "b", "c", "d"] (windowsOf (scans "shard" "pending" 2 ["a", "b", "c", "d"]
      [0, 700000] fun _ => none)) := by
  have hnegative : (windowsOf (scans "shard" "pending" 2 ["a", "b", "c", "d"] [0, 60]
      fun _ => some ⟨-1, none⟩)).map (Window.positions · 4) = [[0, 1], [1, 2]] := by
    decide +kernel
  have hlapsed : (windowsOf (scans "shard" "pending" 2 ["a", "b", "c", "d"] [0, 700000]
      fun _ => none)).map (Window.positions · 4) = [[0, 1], [0, 1]] := by
    decide +kernel
  have hmissed : ∀ windows : List (Window String), (∀ positions ∈ windows.map (Window.positions · 4),
      (3 : ℤ) ∉ positions) → ¬ ReadsAll ["a", "b", "c", "d"] windows := by
    intro windows hnone hall
    obtain ⟨window, hwindow, hmem⟩ := hall 3 (by decide) (by decide)
    exact hnone _ (List.mem_map_of_mem hwindow) hmem
  refine ⟨hmissed _ ?_, hmissed _ ?_⟩
  · rw [hnegative]
    decide
  · rw [hlapsed]
    decide

end MindscapeLocalCore.RunnerQueue.FairnessScan
