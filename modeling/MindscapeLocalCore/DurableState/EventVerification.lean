import MindscapeLocalCore.DurableState.Replay

/-!
The verification of stored events: what it accepts of a ledger, and what altered rows it accepts.
-/

namespace MindscapeLocalCore.DurableState.EventVerification

open Library Library.Guarded Library.HashChain Library.Hex Library.Json
open Library.JsonText Calls CanonicalJson Chain Errors Events ExecutionRuns
open ProductIterationContract (quoted)
open Progress Records Records.Ledger Replay Samples SingleWorkflow

/-! ## The verification -/

/-- A turn of the loop of `verify_events`. -/
def verifyEvent (world : World) (verificationKeys : String → Option ByteArray)
    (previous : Option String) (event : EventRow) : Check (Option String) := do
  let core := eventCoreFromRow event
  let expected ← chainedHash world previous (.obj core)
  ensure (event.previousEventHash = previous ∧ event.eventHash = expected)
    "durable event hash chain is invalid"
  match verificationKeys event.keyId with
  | none =>
      .error (.valueError ("event signing key " ++ quoted (.str event.keyId) ++ " is unavailable"))
  | some publicKey => do
      let content ← encode (.obj (signedContent core event.eventHash))
      ensure (world.ed25519Verify publicKey content event.signature)
        "durable workflow signature is invalid"
      pure (some event.eventHash)

def verifyEvents (world : World) (verificationKeys : String → Option ByteArray)
    (events : List EventRow) : Check (Option String) :=
  events.foldlM (verifyEvent world verificationKeys) (events.head?.bind EventRow.previousEventHash)

def verifyChain (world : World) (verificationKeys : String → Option ByteArray) (L : Ledger)
    (workflowId : String) (cursor limit : ℤ) : Check (Option String) := do
  ensure (1 ≤ limit ∧ limit ≤ 50) "durable event page limit must be between 1 and 50"
  verifyEvents world verificationKeys (eventsAfter L workflowId cursor limit.toNat)

variable {world : World} {verificationKeys : String → Option ByteArray} {L : Ledger} {w : String}
  {row : InstanceRow} {events others : List EventRow} {previous : Option String}

def Signed (world : World) (verificationKeys : String → Option ByteArray) (event : EventRow) :
    Prop :=
  ∃ publicKey content, verificationKeys event.keyId = some publicKey ∧
    encode (.obj (signedContent (eventCoreFromRow event) event.eventHash)) = .ok content ∧
    world.ed25519Verify publicKey content event.signature = true

/-- Every event names its predecessor, and its hash is computed from it. -/
def Hashed (world : World) : Option String → List EventRow → Prop
  | _, [] => True
  | previous, event :: rest =>
      event.previousEventHash = previous ∧
        chainedHash world previous (.obj (eventCoreFromRow event)) = .ok event.eventHash ∧
        Hashed world (some event.eventHash) rest

theorem verifyEvent_eq_ok {event : EventRow} {result : Option String} :
    verifyEvent world verificationKeys previous event = .ok result ↔
      event.previousEventHash = previous ∧
        chainedHash world previous (.obj (eventCoreFromRow event)) = .ok event.eventHash ∧
        Signed world verificationKeys event ∧ result = some event.eventHash := by
  simp only [verifyEvent, bind_eq_ok, ensure_eq_ok, exists_unit]
  constructor
  · rintro ⟨expected, hexpected, ⟨hprevious, rfl⟩, h⟩
    cases hkey : verificationKeys event.keyId with
    | none =>
        rw [hkey] at h
        cases h
    | some publicKey =>
        rw [hkey] at h
        obtain ⟨content, hcontent, h⟩ := bind_eq_ok.mp h
        obtain ⟨_, hverify, h⟩ := bind_eq_ok.mp h
        exact ⟨hprevious, hexpected, ⟨publicKey, content, hkey, hcontent, ensure_eq_ok.mp hverify⟩,
          (Except.ok.inj h).symm⟩
  · rintro ⟨hprevious, hexpected, ⟨publicKey, content, hkey, hcontent, hverify⟩, rfl⟩
    refine ⟨_, hexpected, ⟨hprevious, rfl⟩, ?_⟩
    rw [hkey]
    change (encode _ >>= fun content => _) = _
    rw [hcontent, ok_bind, ensure_of hverify]
    rfl

theorem foldlM_verifyEvent {result : Option String} :
    events.foldlM (verifyEvent world verificationKeys) previous = .ok result ↔
      Hashed world previous events ∧ (∀ event ∈ events, Signed world verificationKeys event) ∧
        result = tip eventLinks previous events := by
  induction events generalizing previous with
  | nil => simp [Hashed, eq_comm]
  | cons event rest ih =>
      rw [List.foldlM_cons, bind_eq_ok]
      simp only [verifyEvent_eq_ok, ih, Hashed, List.forall_mem_cons, tip_cons]
      constructor
      · rintro ⟨_, ⟨hprevious, hhash, hsigned, rfl⟩, hrest, hall, rfl⟩
        exact ⟨⟨hprevious, hhash, hrest⟩, ⟨hsigned, hall⟩, rfl⟩
      · rintro ⟨⟨hprevious, hhash, hrest⟩, ⟨hsigned, hall⟩, rfl⟩
        exact ⟨_, ⟨hprevious, hhash, hsigned, rfl⟩, hrest, hall, rfl⟩

theorem hashed_of_linked {n : ℕ} (hlinked : Linked eventLinks previous n events)
    (hhash : ∀ event ∈ events, chainedHash world event.previousEventHash
      (.obj (eventCoreFromRow event)) = .ok event.eventHash) : Hashed world previous events := by
  induction events generalizing previous n with
  | nil => trivial
  | cons event rest ih =>
      obtain ⟨-, hprevious, hrest⟩ := hlinked
      obtain ⟨hfirst, hothers⟩ := List.forall_mem_cons.mp hhash
      change event.previousEventHash = previous at hprevious
      exact ⟨hprevious, hprevious ▸ hfirst, ih hrest hothers⟩

theorem linked_drop {n : ℕ} (h : Linked eventLinks previous n events) (c : ℕ) :
    Linked eventLinks (tip eventLinks previous (events.take c)) (n + c) (events.drop c) := by
  induction events generalizing previous n c with
  | nil => rw [List.drop_nil]; trivial
  | cons event rest ih =>
      cases c with
      | zero => exact h
      | succ c =>
          rw [List.take_succ_cons, tip_cons, List.drop_succ_cons, Nat.add_comm c 1, ← Nat.add_assoc]
          exact ih h.2.2 c

/-! ## Altered rows -/

theorem hexdigest_injective {a b : BitVec 256} (h : hexdigest a = hexdigest b) : a = b := by
  have hmod := hexText_injective (String.ofList_inj.mp h)
  rw [show 16 ^ 64 = 2 ^ 256 by norm_num, Nat.mod_eq_of_lt a.isLt, Nat.mod_eq_of_lt b.isLt] at hmod
  exact BitVec.eq_of_toNat_eq hmod

def hexBytes : ℕ → ℕ → List UInt8
  | 0, _ => []
  | count + 1, n =>
      UInt8.ofNat (16 * (n / 16 ^ (2 * count + 1) % 16) + n / 16 ^ (2 * count) % 16) ::
        hexBytes count n

theorem length_hexBytes (count n : ℕ) : (hexBytes count n).length = count := by
  induction count with
  | zero => rfl
  | succ count ih => rw [hexBytes, List.length_cons, ih]

theorem hexText_two_mul_succ (count n : ℕ) : hexText (2 * (count + 1)) n =
    hexDigit (n / 16 ^ (2 * count + 1) % 16) :: hexDigit (n / 16 ^ (2 * count) % 16) ::
      hexText (2 * count) n := rfl

theorem fromHex_hexText_eq (count n : ℕ) :
    fromHex (hexText (2 * count) n) = some (hexBytes count n) := by
  induction count with
  | zero => rfl
  | succ count ih =>
      obtain ⟨hspace, hhigh⟩ := hexValue_hexDigit (n / 16 ^ (2 * count + 1) % 16)
        (Nat.mod_lt _ (by decide))
      obtain ⟨-, hlow⟩ := hexValue_hexDigit (n / 16 ^ (2 * count) % 16) (Nat.mod_lt _ (by decide))
      rw [hexText_two_mul_succ, hexBytes]
      simp only [fromHex, hspace, hhigh, hlow, ih]
      rfl

theorem hexText_of_hexBytes {count m n : ℕ} (h : hexBytes count m = hexBytes count n) :
    hexText (2 * count) m = hexText (2 * count) n := by
  induction count with
  | zero => rfl
  | succ count ih =>
      obtain ⟨hbyte, hrest⟩ := List.cons.inj h
      have hvalue := congrArg UInt8.toNat hbyte
      have hdigit : ∀ k place : ℕ, k / 16 ^ place % 16 < 16 := fun _ _ => Nat.mod_lt _ (by decide)
      have hm := hdigit m (2 * count + 1)
      have hm' := hdigit m (2 * count)
      have hn := hdigit n (2 * count + 1)
      have hn' := hdigit n (2 * count)
      rw [UInt8.toNat_ofNat', UInt8.toNat_ofNat'] at hvalue
      rw [hexText_two_mul_succ, hexText_two_mul_succ, ih hrest]
      generalize m / 16 ^ (2 * count + 1) % 16 = a at hm hvalue ⊢
      generalize m / 16 ^ (2 * count) % 16 = b at hm' hvalue ⊢
      generalize n / 16 ^ (2 * count + 1) % 16 = c at hn hvalue ⊢
      generalize n / 16 ^ (2 * count) % 16 = d at hn' hvalue ⊢
      obtain ⟨rfl, rfl⟩ : a = c ∧ b = d := by omega
      rfl

/-- Both events have no predecessor, or both name a digest. -/
def Alike (previous other : Option String) : Prop :=
  previous = none ∧ other = none ∨
    ∃ digest otherDigest, previous = some (hexdigest digest) ∧ other = some (hexdigest otherDigest)

theorem previousBytes_alike {other : Option String} (h : Alike previous other) :
    ∃ bytes otherBytes, previousBytes previous = .ok bytes ∧ previousBytes other = .ok otherBytes ∧
      bytes.size = otherBytes.size ∧ (bytes = otherBytes → previous = other) := by
  rcases h with ⟨rfl, rfl⟩ | ⟨digest, otherDigest, rfl, rfl⟩
  · exact ⟨_, _, rfl, rfl, rfl, fun _ => rfl⟩
  · have hread : ∀ digest : BitVec 256, previousBytes (some (hexdigest digest)) =
        .ok ⟨(hexBytes 32 digest.toNat).toArray⟩ := fun digest => by
      rw [previousBytes, hexdigest, String.toList_ofList, fromHex_hexText_eq 32]
    refine ⟨_, _, hread digest, hread otherDigest, ?_, fun h => ?_⟩
    · change (hexBytes 32 _).toArray.size = (hexBytes 32 _).toArray.size
      rw [List.size_toArray, List.size_toArray, length_hexBytes, length_hexBytes]
    · rw [hexdigest, hexdigest, hexText_of_hexBytes (List.toArray_inj (ByteArray.mk.inj h))]

def Preimage (event : EventRow) (bytes : ByteArray) : Prop :=
  ∃ previous encoded, previousBytes event.previousEventHash = .ok previous ∧
    encode (.obj (eventCoreFromRow event)) = .ok encoded ∧ bytes = previous ++ encoded

def coreText (event : EventRow) : String := render canonical (.obj (eventCoreFromRow event))

theorem chainedHash_eq_ok {core : Json} {hash : String} :
    chainedHash world previous core = .ok hash ↔ ∃ bytes encoded,
      previousBytes previous = .ok bytes ∧ encode core = .ok encoded ∧
        hexdigest (world.sha256 (bytes ++ encoded)) = hash := by
  simp only [chainedHash, bind_eq_ok, Except.ok.injEq, exists_and_left]

/-- Two chains of one length that end with the same hash hold the same, where no two of the byte
strings that they are hashed from collide. -/
theorem cores_eq_of_tip {other : Option String} (hevents : Hashed world previous events)
    (hothers : Hashed world other others) (halike : Alike previous other)
    (hlength : events.length = others.length)
    (hinjective : Set.InjOn world.sha256
      {bytes | ∃ event ∈ events ++ others, Preimage event bytes})
    (htip : tip eventLinks previous events = tip eventLinks other others) :
    previous = other ∧ events.map coreText = others.map coreText := by
  induction events generalizing previous other others with
  | nil =>
      obtain rfl := List.length_eq_zero_iff.mp hlength.symm
      rw [tip_nil, tip_nil] at htip
      exact ⟨htip, rfl⟩
  | cons event rest ih =>
      obtain ⟨second, others, rfl⟩ := List.exists_cons_of_length_eq_add_one hlength.symm
      obtain ⟨hprevious, hhash, hrest⟩ := hevents
      obtain ⟨hprevious', hhash', hrest'⟩ := hothers
      obtain ⟨bytes, encoded, hbytes, hencoded, hdigest⟩ := chainedHash_eq_ok.mp hhash
      obtain ⟨bytes', encoded', hbytes', hencoded', hdigest'⟩ := chainedHash_eq_ok.mp hhash'
      have hsubset : {bytes | ∃ event ∈ rest ++ others, Preimage event bytes} ⊆
          {bytes | ∃ first ∈ event :: rest ++ second :: others, Preimage first bytes} := by
        rintro bytes ⟨later, hlater, hpreimage⟩
        refine ⟨later, ?_, hpreimage⟩
        rcases List.mem_append.mp hlater with hmem | hmem
        · exact List.mem_append_left _ (List.mem_cons_of_mem _ hmem)
        · exact List.mem_append_right _ (List.mem_cons_of_mem _ hmem)
      rw [tip_cons, tip_cons] at htip
      obtain ⟨hsame, htexts⟩ := ih hrest hrest' (.inr ⟨_, _, congrArg some hdigest.symm,
        congrArg some hdigest'.symm⟩) (Nat.succ.inj hlength) (hinjective.mono hsubset) htip
      have hshas := hexdigest_injective (hdigest.trans ((Option.some.inj hsame).trans hdigest'.symm))
      have hcat : bytes ++ encoded = bytes' ++ encoded' :=
        hinjective ⟨event, List.mem_append_left _ List.mem_cons_self, bytes, encoded,
            hprevious ▸ hbytes, hencoded, rfl⟩
          ⟨second, List.mem_append_right _ List.mem_cons_self, bytes', encoded',
            hprevious' ▸ hbytes', hencoded', rfl⟩ hshas
      obtain ⟨start, start', hstart, hstart', hsize, hinj⟩ := previousBytes_alike halike
      cases hbytes.symm.trans hstart
      cases hbytes'.symm.trans hstart'
      have hleft := ByteArray.append_inj_left hcat hsize
      have htext : coreText event = coreText second := by
        rw [hleft, ByteArray.append_right_inj, (encode_eq_ok.mp hencoded).2,
          (encode_eq_ok.mp hencoded').2] at hcat
        exact String.toByteArray_inj.mp hcat
      rw [List.map_cons, List.map_cons, htexts, htext]
      exact ⟨hinj hleft, rfl⟩

/-- As many rows as the ledger counts, verified against the hash that it names, hold what the
workflow stored, whatever was altered, unless SHA-256 collides on what they are hashed from. -/
theorem cores_eq_of_verified (hL : Reachable world L) (hrow : L.row? w = some row)
    (hverified : verifyEvents world verificationKeys events = .ok row.currentEventHash)
    (hstart : events.head?.bind EventRow.previousEventHash = none)
    (hlength : events.length = row.eventCount)
    (hinjective : Set.InjOn world.sha256
      {bytes | ∃ event ∈ events ++ L.eventsOf w, Preimage event bytes}) :
    events.map coreText = (L.eventsOf w).map coreText := by
  have hchain := chained_of_reachable hL hrow
  rw [verifyEvents, hstart, foldlM_verifyEvent] at hverified
  obtain ⟨hhashed, -, htip⟩ := hverified
  exact (cores_eq_of_tip hhashed (hashed_of_linked hchain.linked hchain.eventHash) (.inl ⟨rfl, rfl⟩)
    (hlength.trans hchain.eventCount) hinjective (htip.symm.trans hchain.currentEventHash)).2

theorem cores_eq_of_verified_message : ∃ L row event altered, Reachable testWorld L ∧
    L.row? "workflow:test" = some row ∧ L.eventsOf "workflow:test" = [event] ∧
    EventRow.keyId altered = "key" ∧
    verifyEvents testWorld (fun _ => some ByteArray.empty) [altered] = .ok row.currentEventHash ∧
    [altered].map coreText = [event].map coreText := by
  obtain ⟨_, _, before, hbefore, -⟩ := opened_stage
  obtain ⟨event, row, _, L, -, hstep⟩ := message_step "key:test" "message:test" hbefore (by decide)
    welcome_service (by decide) (by rintro _ ⟨⟩) (by rintro _ ⟨⟩)
  have hrow := row?_of_solo hstep.stage.solo
  have hown := eventsOf_of_solo hstep.stage.solo
  have hnone : before.events = [] :=
    List.eq_nil_iff_forall_not_mem.mpr fun e he => (hbefore.solo.events e he).1
  rw [workflowId_of_stage hstep.stage] at hrow hown
  rw [hstep.grown.events, hnone, List.nil_append] at hown
  have hchain := chained_of_reachable hstep.stage.reachable hrow
  rw [hown] at hchain
  have hhashed := hashed_of_linked hchain.linked hchain.eventHash
  have hsealed := hstep.grown.appended.own.isSealed
  obtain ⟨content, hcontent⟩ : ∃ content,
      encode (.obj (signedContent (eventCoreFromRow event) event.eventHash)) = .ok content :=
    ⟨_, encode_eq_ok.mpr ⟨hsealed.canonicalBytes ▸ hsealed.canonicalBytes_le, rfl⟩⟩
  let altered : EventRow :=
    { event with keyId := "key", signature := testSigner.signature content }
  have hstart : [altered].head?.bind EventRow.previousEventHash = none := hhashed.1
  have hverified : verifyEvents testWorld (fun _ => some ByteArray.empty) [altered] =
      .ok row.currentEventHash := by
    rw [verifyEvents, hstart, foldlM_verifyEvent]
    refine ⟨hhashed, fun e he => ?_, hchain.currentEventHash⟩
    rw [List.mem_singleton.mp he]
    exact ⟨_, content, rfl, hcontent, decide_eq_true rfl⟩
  have hcores := cores_eq_of_verified hstep.stage.reachable hrow hverified hstart
    hchain.eventCount.symm (by
      have hpreimage : ∀ e ∈ [altered] ++ L.eventsOf "workflow:test", ∀ bytes, Preimage e bytes →
          Preimage event bytes := by
        rw [hown]
        intro e he bytes hbytes
        rcases List.mem_append.mp he with he | he
        · rw [List.mem_singleton.mp he] at hbytes
          exact hbytes
        · rw [List.mem_singleton.mp he] at hbytes
          exact hbytes
      rintro first ⟨e, he, hfirst⟩ second ⟨e', he', hsecond⟩ -
      obtain ⟨bytes, encoded, hbytes, hencoded, rfl⟩ := hpreimage e he first hfirst
      obtain ⟨bytes', encoded', hbytes', hencoded', rfl⟩ := hpreimage e' he' second hsecond
      cases hbytes.symm.trans hbytes'
      cases hencoded.symm.trans hencoded'
      rfl)
  rw [hown] at hcores
  exact ⟨L, row, event, altered, hstep.stage.reachable, hrow, hown, rfl, hverified, hcores⟩

end MindscapeLocalCore.DurableState.EventVerification
