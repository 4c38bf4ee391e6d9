import MindscapeLocalCore.DeviceBinding.DeviceBindingRegistry
/-!
What the sessions say of each other, and what the pairing records say of the sessions that
hold them.
-/

namespace MindscapeLocalCore.DeviceBinding.BindingInvariants

open Library.OrderedDict DeviceBindingContracts DeviceBindingRegistry

variable {Time : Type}

def inWorkspace (workspaceId : String) (entry : Entry Time) : Bool :=
  decide (entry.workspaceId = workspaceId)

structure Kept (r : Registry Time) : Prop where
  named : ∀ id entry, r.sessions.get id = some entry → entry.sessionId = id
  nonempty : r.sessions.get "" = none
  listed : ∀ id entry, r.sessions.get id = some entry → entry.state ∉ terminalStates
  limit : ∀ workspaceId, r.sessions.count (inWorkspace workspaceId) ≤ 3

/-- A record under the code of a session is held by this session, and no two sessions have one
code. -/
structure Held (r : Registry Time) : Prop where
  record : ∀ id entry record, r.sessions.get id = some entry →
    r.pairings.get entry.pairingCode = some record → record.consumedSessionId = some id
  once : ∀ id id' entry entry', r.sessions.get id = some entry → r.sessions.get id' = some entry' →
    entry.pairingCode = entry'.pairingCode → id = id'

variable {r : Registry Time} {id code : String} {entry entry' : Entry Time}
  {record record' : PairingRecord Time} {entries : List (Entry Time)}

theorem kept_empty : Kept (Registry.empty : Registry Time) where
  named id entry h := by cases h
  nonempty := rfl
  listed id entry h := by cases h
  limit workspaceId := Nat.zero_le 3

theorem held_empty : Held (Registry.empty : Registry Time) where
  record id entry record h := by cases h
  once id id' entry entry' h := by cases h

theorem ne_empty_of_get (h : Kept r) (hget : r.sessions.get id = some entry) : id ≠ "" := by
  rintro rfl
  rw [h.nonempty] at hget
  cases hget

/-! ### Records -/

theorem sessions_releasePairingSession :
    (releasePairingSession code id r).sessions = r.sessions := by
  rw [releasePairingSession]
  split
  · split
    · rfl
    · rfl
  · rfl

theorem get_releasePairingSession {code' : String}
    (h : (releasePairingSession code id r).pairings.get code' = some record') :
    ∃ record, r.pairings.get code' = some record ∧ record'.pairing = record.pairing ∧
      (record'.consumedSessionId = record.consumedSessionId ∨
        record.consumedSessionId = some id ∧ record'.consumedSessionId = none) := by
  rw [releasePairingSession] at h
  split at h
  · rename_i record hget
    split at h
    · rename_i hheld
      replace h : (r.pairings.set code { record with consumedSessionId := none }).get code' =
        some record' := h
      rw [get_set] at h
      split at h
      · rename_i hcode
        rw [hcode, ← Option.some.inj h]
        exact ⟨record, hget, rfl, .inr ⟨hheld, rfl⟩⟩
      · exact ⟨record', h, rfl, .inl rfl⟩
    · exact ⟨record', h, rfl, .inl rfl⟩
  · exact ⟨record', h, rfl, .inl rfl⟩

theorem kept_of_sessions {r' : Registry Time} (h : Kept r) (hsessions : r'.sessions = r.sessions) :
    Kept r' := by
  obtain ⟨pairings, sessions⟩ := r'
  obtain rfl : sessions = r.sessions := hsessions
  exact ⟨h.named, h.nonempty, h.listed, h.limit⟩

theorem held_of_pairings {pairings : PyDict String (PairingRecord Time)} (h : Held r)
    (hpairings : ∀ code record', pairings.get code = some record' →
      ∃ record, r.pairings.get code = some record ∧
        record'.consumedSessionId = record.consumedSessionId) :
    Held { r with pairings := pairings } where
  record id entry record' hget hrecord' := by
    obtain ⟨record, hrecord, hsame⟩ := hpairings _ _ hrecord'
    exact hsame.trans (h.record id entry record hget hrecord)
  once := h.once

theorem held_popPairing (h : Held r) : Held { r with pairings := r.pairings.pop code } :=
  held_of_pairings h fun _ record hget => ⟨record, (get_pop_eq_some.mp hget).2, rfl⟩

theorem held_setPairing (h : Held r) (hget : r.pairings.get code = some record)
    (hsame : record'.consumedSessionId = record.consumedSessionId) :
    Held { r with pairings := r.pairings.set code record' } := by
  refine held_of_pairings h fun code' found hfound => ?_
  rw [get_set] at hfound
  split at hfound
  · rename_i hcode
    rw [hcode]
    exact ⟨record, hget, Option.some.inj hfound ▸ hsame⟩
  · exact ⟨found, hfound, rfl⟩

theorem held_addPairing (h : Held r)
    (hfree : ∀ id entry, r.sessions.get id = some entry → entry.pairingCode ≠ code) :
    Held { r with pairings := r.pairings.set code record } where
  record id entry found hget hfound := by
    rw [get_set_of_ne (hfree id entry hget)] at hfound
    exact h.record id entry found hget hfound
  once := h.once

/-! ### Sessions -/

theorem kept_removeSession (h : Kept r) : Kept (removeSession entry r) := by
  refine kept_of_sessions (r := { r with sessions := r.sessions.pop entry.sessionId }) ?_
    sessions_releasePairingSession
  constructor
  · intro id found hget
    exact h.named id found (get_pop_eq_some.mp hget).2
  · show (r.sessions.pop entry.sessionId).get "" = none
    rw [get_pop, h.nonempty, ite_self]
  · intro id found hget
    exact h.listed id found (get_pop_eq_some.mp hget).2
  · intro workspaceId
    exact Nat.le_trans count_pop_le (h.limit workspaceId)

theorem held_removeSession (h : Held r) : Held (removeSession entry r) where
  record id found record' hget hrecord := by
    rw [removeSession, sessions_releasePairingSession] at hget
    obtain ⟨hne, hget⟩ := get_pop_eq_some.mp hget
    obtain ⟨record, hold, -, hsame | ⟨hheld, -⟩⟩ := get_releasePairingSession hrecord
    · exact hsame.trans (h.record id found record hget hold)
    · -- the mark that was cleared is that of the removed session
      rw [h.record id found record hget hold] at hheld
      exact absurd (Option.some.inj hheld) hne
  once id id' found found' hget hget' hcode := by
    rw [removeSession, sessions_releasePairingSession] at hget hget'
    exact h.once id id' found found' (get_pop_eq_some.mp hget).2 (get_pop_eq_some.mp hget').2 hcode

theorem get_removeSession : (removeSession entry r).sessions.get id =
    if id = entry.sessionId then none else r.sessions.get id := by
  rw [removeSession, sessions_releasePairingSession]
  exact get_pop

theorem kept_setSession (h : Kept r) (hget : r.sessions.get id = some entry)
    (hid : entry'.sessionId = entry.sessionId) (hworkspace : entry'.workspaceId = entry.workspaceId)
    (hlisted : entry'.state ∉ terminalStates) :
    Kept { r with sessions := r.sessions.set id entry' } where
  named id' found hfound := by
    replace hfound : (r.sessions.set id entry').get id' = some found := hfound
    rw [get_set] at hfound
    split at hfound
    · rename_i hsame
      rw [← Option.some.inj hfound, hid, hsame]
      exact h.named id entry hget
    · exact h.named id' found hfound
  nonempty := (get_set_of_ne (ne_empty_of_get h hget).symm).trans h.nonempty
  listed id' found hfound := by
    replace hfound : (r.sessions.set id entry').get id' = some found := hfound
    rw [get_set] at hfound
    split at hfound
    · rw [← Option.some.inj hfound]
      exact hlisted
    · exact h.listed id' found hfound
  limit workspaceId := by
    refine (count_set_of_some hget ?_).trans_le (h.limit workspaceId)
    rw [inWorkspace, inWorkspace, hworkspace]

theorem held_setSession (h : Held r) (hget : r.sessions.get id = some entry)
    (hcode : entry'.pairingCode = entry.pairingCode) :
    Held { r with sessions := r.sessions.set id entry' } := by
  have hold : ∀ id' found, (r.sessions.set id entry').get id' = some found →
      ∃ old, r.sessions.get id' = some old ∧ found.pairingCode = old.pairingCode := by
    intro id' found hfound
    rw [get_set] at hfound
    split at hfound
    · rename_i hsame
      rw [hsame]
      exact ⟨entry, hget, Option.some.inj hfound ▸ hcode⟩
    · exact ⟨found, hfound, rfl⟩
  constructor
  · intro id' found record hfound hrecord
    obtain ⟨old, hget', hsame⟩ := hold id' found hfound
    exact h.record id' old record hget' (hsame ▸ hrecord)
  · intro id₁ id₂ found₁ found₂ hfound₁ hfound₂ hcodes
    obtain ⟨old₁, hget₁, hsame₁⟩ := hold id₁ found₁ hfound₁
    obtain ⟨old₂, hget₂, hsame₂⟩ := hold id₂ found₂ hfound₂
    exact h.once id₁ id₂ old₁ old₂ hget₁ hget₂ (hsame₁.symm.trans (hcodes.trans hsame₂))

theorem kept_addSession (h : Kept r) (hid : entry.sessionId = id) (hne : id ≠ "")
    (hfresh : r.sessions.get id = none) (hlisted : entry.state ∉ terminalStates)
    (hlimit : r.sessions.count (inWorkspace entry.workspaceId) < 3) :
    Kept { r with sessions := r.sessions.set id entry } where
  named id' found hfound := by
    replace hfound : (r.sessions.set id entry).get id' = some found := hfound
    rw [get_set] at hfound
    split at hfound
    · rename_i hsame
      rw [← Option.some.inj hfound, hid, hsame]
    · exact h.named id' found hfound
  nonempty := (get_set_of_ne hne.symm).trans h.nonempty
  listed id' found hfound := by
    replace hfound : (r.sessions.set id entry).get id' = some found := hfound
    rw [get_set] at hfound
    split at hfound
    · rw [← Option.some.inj hfound]
      exact hlisted
    · exact h.listed id' found hfound
  limit workspaceId := by
    refine (count_set_of_none hfresh).trans_le ?_
    split
    · rename_i hworkspace
      rw [← of_decide_eq_true hworkspace]
      exact hlimit
    · exact h.limit workspaceId

theorem sessions_consumePairing : (consumePairing code id r).sessions = r.sessions := by
  rw [consumePairing]
  split
  · rfl
  · rfl

theorem held_addSession (h : Held r)
    (hfree : ∀ id' found, r.sessions.get id' = some found →
      found.pairingCode ≠ entry.pairingCode) :
    Held (consumePairing entry.pairingCode id
      { r with sessions := r.sessions.set id entry }) := by
  have hsessions : ∀ id' found,
      (consumePairing entry.pairingCode id
        { r with sessions := r.sessions.set id entry }).sessions.get id' = some found →
      (id' = id ∧ entry = found) ∨ id' ≠ id ∧ r.sessions.get id' = some found := by
    intro id' found hget
    rw [sessions_consumePairing] at hget
    replace hget : (r.sessions.set id entry).get id' = some found := hget
    rw [get_set] at hget
    split at hget
    · rename_i hsame
      exact .inl ⟨hsame, Option.some.inj hget⟩
    · rename_i hne
      exact .inr ⟨hne, hget⟩
  constructor
  · intro id' found record hget hrecord
    rw [consumePairing] at hrecord
    rcases hsessions id' found hget with ⟨rfl, rfl⟩ | ⟨hne, hold⟩
    · split at hrecord
      · rename_i old hold
        replace hrecord : (r.pairings.set entry.pairingCode
          { old with consumedSessionId := some id' }).get entry.pairingCode = some record := hrecord
        rw [get_set_self] at hrecord
        rw [← Option.some.inj hrecord]
      · rename_i hnone
        rw [hnone] at hrecord
        cases hrecord
    · refine h.record id' found record hold ?_
      split at hrecord
      · exact (get_set_of_ne (hfree id' found hold)).symm.trans hrecord
      · exact hrecord
  · intro id₁ id₂ found₁ found₂ hget₁ hget₂ hcodes
    rcases hsessions id₁ found₁ hget₁ with ⟨rfl, rfl⟩ | ⟨-, hold₁⟩
    · rcases hsessions id₂ found₂ hget₂ with ⟨rfl, -⟩ | ⟨-, hold₂⟩
      · rfl
      · exact absurd hcodes.symm (hfree id₂ found₂ hold₂)
    · rcases hsessions id₂ found₂ hget₂ with ⟨rfl, rfl⟩ | ⟨-, hold₂⟩
      · exact absurd hcodes (hfree id₁ found₁ hold₁)
      · exact h.once id₁ id₂ found₁ found₂ hold₁ hold₂ hcodes

/-! ### Expiry -/

theorem kept_removeSessions (h : Kept r) : Kept (removeSessions entries r) := by
  induction entries generalizing r with
  | nil => exact h
  | cons entry entries ih => exact ih (kept_removeSession h)

theorem held_removeSessions (h : Held r) : Held (removeSessions entries r) := by
  induction entries generalizing r with
  | nil => exact h
  | cons entry entries ih => exact ih (held_removeSession h)

theorem get_removeSessions :
    (removeSessions entries r).sessions.get id =
      if id ∈ entries.map DeviceSessionEntry.sessionId then none else r.sessions.get id := by
  induction entries generalizing r with
  | nil => rfl
  | cons entry entries ih =>
      refine ih.trans ?_
      rw [get_removeSession, List.map_cons]
      by_cases hrest : id ∈ entries.map DeviceSessionEntry.sessionId
      · rw [if_pos hrest, if_pos (List.mem_cons_of_mem _ hrest)]
      · rw [if_neg hrest]
        by_cases hentry : id = entry.sessionId
        · rw [if_pos hentry, if_pos (hentry ▸ List.mem_cons_self)]
        · rw [if_neg hentry, if_neg (List.not_mem_cons_of_ne_of_not_mem hentry hrest)]

theorem get_pairings_removeSessions
    (h : (removeSessions entries r).pairings.get code = some record') :
    ∃ record, r.pairings.get code = some record ∧ record'.pairing = record.pairing := by
  induction entries generalizing r with
  | nil => exact ⟨record', h, rfl⟩
  | cons entry entries ih =>
      obtain ⟨middle, hmiddle, hsame⟩ := ih h
      obtain ⟨record, hget, hrecord, -⟩ := get_releasePairingSession hmiddle
      exact ⟨record, hget, hsame.trans hrecord⟩

variable [LinearOrder Time] {now : Time}

theorem kept_cleaned (h : Kept r) : Kept (cleaned now r) :=
  kept_removeSessions (r := purgePairings now r) (kept_of_sessions h rfl)

theorem held_cleaned (h : Held r) : Held (cleaned now r) := by
  refine held_removeSessions (r := purgePairings now r) (held_of_pairings h ?_)
  exact fun code record hget => ⟨record, (get_retain.mp hget).1, rfl⟩

theorem get_cleaned (h : Kept r) : (cleaned now r).sessions.get id = some entry ↔
    r.sessions.get id = some entry ∧ now < entry.expiresAtEpoch := by
  show (removeSessions (expiredSessions now (purgePairings now r))
    (purgePairings now r)).sessions.get id = some entry ↔ _
  rw [get_removeSessions]
  split
  · rename_i hmem
    obtain ⟨old, hold, rfl⟩ := List.mem_map.mp hmem
    obtain ⟨hvalue, hexpired⟩ := List.mem_filter.mp hold
    obtain ⟨id, hget⟩ := mem_values_iff.mp hvalue
    rw [h.named id old hget]
    refine iff_of_false (Option.some_ne_none entry).symm ?_
    rintro ⟨hentry, hlt⟩
    rw [show r.sessions.get id = some old from hget] at hentry
    rw [← Option.some.inj hentry] at hlt
    exact not_lt_of_ge (of_decide_eq_true hexpired) hlt
  · rename_i hnot
    refine ⟨fun hget => ⟨hget, lt_of_not_ge fun hexpired => hnot ?_⟩, fun h => h.1⟩
    refine List.mem_map.mpr ⟨entry, List.mem_filter.mpr ⟨?_, decide_eq_true hexpired⟩, ?_⟩
    · exact mem_values_iff.mpr ⟨id, hget⟩
    · exact h.named id entry hget

theorem get_pairings_cleaned (h : (cleaned now r).pairings.get code = some record') :
    ∃ record, r.pairings.get code = some record ∧ record'.pairing = record.pairing := by
  obtain ⟨record, hget, hsame⟩ := get_pairings_removeSessions h
  exact ⟨record, (get_retain.mp hget).1, hsame⟩

end MindscapeLocalCore.DeviceBinding.BindingInvariants
