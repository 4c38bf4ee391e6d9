import MindscapeLocalCore.Library.Trace
import MindscapeLocalCore.MediaTransport.LiveMediaSessionRegistry
/-!
What the four maps of the registry say of each other: what every method keeps, and what a
removal keeps only where it is made under the key of the session that it removes.
-/

namespace MindscapeLocalCore.MediaTransport.RegistryCoherence

open Library.OrderedDict LiveMediaContracts LiveMediaSessionRegistry

variable {Time : Type}

/-- The device map and the stored sessions are in one-to-one correspondence. -/
def Aligned (r : Registry Time) : Prop :=
  ∀ key id, r.deviceSessions.get key = some id ↔
    ∃ descriptor, r.sessions.get id = some descriptor ∧ deviceKey descriptor = key

def inWorkspace (workspaceId : String) (descriptor : Descriptor Time) : Bool :=
  decide (descriptor.workspaceId = workspaceId)

def reservedIn (workspaceId : String) (descriptor : Descriptor Time) : Bool :=
  inWorkspace workspaceId descriptor && descriptor.analysisReserved

/-- What every method keeps, whatever it is called with. -/
structure Kept (r : Registry Time) : Prop where
  named : ∀ id descriptor, r.sessions.get id = some descriptor → descriptor.mediaSessionId = id
  nonempty : r.sessions.get "" = none
  bindings : ∀ id, (r.receiverBindings.get id).isSome ↔ (r.sessions.get id).isSome
  started : ∀ id ∈ r.startedReceivers, (r.sessions.get id).isSome
  limit : ∀ workspaceId, r.sessions.count (inWorkspace workspaceId) ≤ 3
  reserved : ∀ workspaceId, r.sessions.count (reservedIn workspaceId) ≤ 1

variable {r : Registry Time} {id id' : String} {key : String × String}
  {descriptor d : Descriptor Time} {items : List (String × Descriptor Time)}

theorem count_mono {p q : Descriptor Time → Bool} {s : PyDict String (Descriptor Time)}
    (h : ∀ d, p d = true → q d = true) : s.count p ≤ s.count q :=
  List.countP_mono_left fun d _ => h d

theorem kept_empty : Kept (Registry.empty : Registry Time) where
  named id descriptor h := by cases h
  nonempty := rfl
  bindings id := Iff.rfl
  started id h := absurd h (Finset.notMem_empty id)
  limit workspaceId := Nat.zero_le 3
  reserved workspaceId := Nat.zero_le 1

theorem aligned_empty : Aligned (Registry.empty : Registry Time) := by
  intro key id
  refine iff_of_false (Option.some_ne_none id).symm ?_
  rintro ⟨descriptor, hget, -⟩
  cases hget

/-! ### Removals -/

theorem kept_release (h : Kept r) : Kept (release id key r) where
  named id' descriptor hget := h.named id' descriptor (get_pop_eq_some.mp hget).2
  nonempty := by
    show (r.sessions.pop id).get "" = none
    rw [get_pop, h.nonempty, ite_self]
  bindings id' := by
    show ((r.receiverBindings.pop id).get id').isSome ↔ ((r.sessions.pop id).get id').isSome
    rw [get_pop_isSome, get_pop_isSome, h.bindings]
  started id' hmem := by
    obtain ⟨hne, hstarted⟩ := Finset.mem_erase.mp hmem
    exact get_pop_isSome.mpr ⟨hne, h.started id' hstarted⟩
  limit workspaceId := count_pop_le.trans (h.limit workspaceId)
  reserved workspaceId := count_pop_le.trans (h.reserved workspaceId)

theorem aligned_release (h : Aligned r) (hget : r.sessions.get id = some descriptor) :
    Aligned (release id (deviceKey descriptor) r) := by
  have hkey : r.deviceSessions.get (deviceKey descriptor) = some id :=
    (h _ _).mpr ⟨descriptor, hget, rfl⟩
  intro key' id'
  show (r.deviceSessions.pop (deviceKey descriptor)).get key' = some id' ↔
    ∃ d, (r.sessions.pop id).get id' = some d ∧ deviceKey d = key'
  rw [get_pop_eq_some, h]
  constructor
  · rintro ⟨hne, d, hd, rfl⟩
    refine ⟨d, get_pop_eq_some.mpr ⟨?_, hd⟩, rfl⟩
    rintro rfl
    rw [hget] at hd
    exact hne (congrArg deviceKey (Option.some.inj hd).symm)
  · rintro ⟨d, hd, rfl⟩
    obtain ⟨hne, hd⟩ := get_pop_eq_some.mp hd
    refine ⟨fun hsame => hne ?_, d, hd, rfl⟩
    have hkey' := (h _ _).mpr ⟨d, hd, rfl⟩
    rw [hsame, hkey] at hkey'
    exact (Option.some.inj hkey').symm

theorem kept_releaseAll (h : Kept r) : Kept (releaseAll items r) := by
  induction items generalizing r with
  | nil => exact h
  | cons item items ih => exact ih (kept_release h)

theorem get_releaseAll :
    (releaseAll items r).sessions.get id =
      if id ∈ items.map Prod.fst then none else r.sessions.get id := by
  induction items generalizing r with
  | nil => rfl
  | cons item items ih =>
      refine ih.trans ?_
      show (if id ∈ items.map Prod.fst then none else (r.sessions.pop item.1).get id) = _
      rw [get_pop, List.map_cons]
      by_cases hrest : id ∈ items.map Prod.fst
      · rw [if_pos hrest, if_pos (List.mem_cons_of_mem _ hrest)]
      · rw [if_neg hrest]
        by_cases hitem : id = item.1
        · rw [if_pos hitem, if_pos (hitem ▸ List.mem_cons_self)]
        · rw [if_neg hitem, if_neg (List.not_mem_cons_of_ne_of_not_mem hitem hrest)]

theorem values_releaseAll_sublist :
    (releaseAll items r).sessions.values.Sublist r.sessions.values := by
  induction items generalizing r with
  | nil => exact .refl _
  | cons item items ih => exact ih.trans values_pop_sublist

theorem aligned_releaseAll (h : Aligned r) (hnodup : (items.map Prod.fst).Nodup)
    (hitems : ∀ item ∈ items, r.sessions.get item.1 = some item.2) :
    Aligned (releaseAll items r) := by
  induction items generalizing r with
  | nil => exact h
  | cons item items ih =>
      obtain ⟨hitem, hrest⟩ := List.nodup_cons.mp hnodup
      refine ih (aligned_release h (hitems item List.mem_cons_self)) hrest ?_
      intro other hother
      refine get_pop_eq_some.mpr ⟨?_, hitems other (List.mem_cons_of_mem _ hother)⟩
      intro hsame
      exact hitem (hsame ▸ List.mem_map_of_mem hother)

/-! ### Writes -/

variable {binding : LiveMediaReceiverBinding}

theorem kept_store (h : Kept r) (hne : descriptor.mediaSessionId ≠ "")
    (hfresh : r.sessions.get descriptor.mediaSessionId = none)
    (hlimit : r.sessions.count (inWorkspace descriptor.workspaceId) < 3)
    (hreserved : descriptor.analysisReserved = true →
      r.sessions.count (reservedIn descriptor.workspaceId) = 0) :
    Kept (store descriptor binding r) where
  named id d hget := by
    replace hget : (r.sessions.set descriptor.mediaSessionId descriptor).get id = some d := hget
    rw [get_set] at hget
    split at hget
    · rename_i hid
      rw [← Option.some.inj hget]
      exact hid.symm
    · exact h.named id d hget
  nonempty := (get_set_of_ne hne.symm).trans h.nonempty
  bindings id := by
    refine get_set_isSome.trans ?_
    rw [h.bindings]
    exact get_set_isSome.symm
  started id hmem := get_set_isSome.mpr (.inr (h.started id hmem))
  limit workspaceId := by
    refine (count_set_of_none hfresh).trans_le ?_
    split
    · rename_i hworkspace
      rw [← of_decide_eq_true hworkspace]
      exact hlimit
    · exact h.limit workspaceId
  reserved workspaceId := by
    refine (count_set_of_none hfresh).trans_le ?_
    split
    · rename_i hin
      obtain ⟨hworkspace, hdescriptor⟩ := Bool.and_eq_true_iff.mp hin
      rw [← of_decide_eq_true hworkspace, hreserved hdescriptor]
    · exact h.reserved workspaceId

theorem aligned_store (h : Aligned r) (hkey : r.deviceSessions.get (deviceKey descriptor) = none)
    (hfresh : r.sessions.get descriptor.mediaSessionId = none) :
    Aligned (store descriptor binding r) := by
  intro key id
  show (r.deviceSessions.set (deviceKey descriptor) descriptor.mediaSessionId).get key = some id ↔
    ∃ d, (r.sessions.set descriptor.mediaSessionId descriptor).get id = some d ∧ deviceKey d = key
  rw [get_set, get_set]
  by_cases hid : id = descriptor.mediaSessionId
  · rw [if_pos hid, hid]
    split
    · rename_i hsame
      exact iff_of_true rfl ⟨descriptor, rfl, hsame.symm⟩
    · rename_i hne
      refine iff_of_false (fun hget => ?_) ?_
      · obtain ⟨d, hd, -⟩ := (h _ _).mp hget
        rw [hfresh] at hd
        cases hd
      · rintro ⟨d, hd, rfl⟩
        exact hne (congrArg deviceKey (Option.some.inj hd).symm)
  · rw [if_neg hid]
    split
    · rename_i hsame
      refine iff_of_false (fun heq => hid (Option.some.inj heq).symm) ?_
      rintro ⟨d, hd, hdkey⟩
      rw [(h _ _).mpr ⟨d, hd, hdkey.trans hsame⟩] at hkey
      cases hkey
    · exact h key id

theorem kept_setSession (h : Kept r) (hget : r.sessions.get id = some d)
    (hid : descriptor.mediaSessionId = d.mediaSessionId)
    (hworkspace : descriptor.workspaceId = d.workspaceId)
    (hreserved : descriptor.analysisReserved = d.analysisReserved) :
    Kept { r with sessions := r.sessions.set id descriptor } where
  named id' d' hget' := by
    replace hget' : (r.sessions.set id descriptor).get id' = some d' := hget'
    rw [get_set] at hget'
    split at hget'
    · rename_i hsame
      rw [← Option.some.inj hget', hid, hsame]
      exact h.named id d hget
    · exact h.named id' d' hget'
  nonempty := by
    refine (get_set_of_ne fun hempty => ?_).trans h.nonempty
    rw [← hempty, h.nonempty] at hget
    cases hget
  bindings id' := by
    refine (h.bindings id').trans (Iff.trans ?_ get_set_isSome.symm)
    refine ⟨.inr, fun hor => hor.elim (fun hsame => ?_) fun hsome => hsome⟩
    rw [hsame, hget]
    rfl
  started id' hmem := get_set_isSome.mpr (.inr (h.started id' hmem))
  limit workspaceId := by
    refine (count_set_of_some hget ?_).trans_le (h.limit workspaceId)
    rw [inWorkspace, inWorkspace, hworkspace]
  reserved workspaceId := by
    refine (count_set_of_some hget ?_).trans_le (h.reserved workspaceId)
    rw [reservedIn, reservedIn, inWorkspace, inWorkspace, hworkspace, hreserved]

theorem aligned_setSession (h : Aligned r) (hget : r.sessions.get id = some d)
    (hkey : deviceKey descriptor = deviceKey d) :
    Aligned { r with sessions := r.sessions.set id descriptor } := by
  intro key id'
  show r.deviceSessions.get key = some id' ↔
    ∃ d', (r.sessions.set id descriptor).get id' = some d' ∧ deviceKey d' = key
  rw [h, get_set]
  split
  · rename_i hsame
    rw [hsame, hget]
    constructor
    · rintro ⟨d', hd', rfl⟩
      rw [← Option.some.inj hd']
      exact ⟨descriptor, rfl, hkey⟩
    · rintro ⟨d', hd', rfl⟩
      rw [← Option.some.inj hd']
      exact ⟨d, rfl, hkey.symm⟩
  · rfl

theorem deviceSessions_eq_none (h : Kept r) (haligned : Aligned r)
    (habsent : existingSession key r = none) : r.deviceSessions.get key = none := by
  rw [existingSession] at habsent
  split at habsent
  · rename_i id hkey
    obtain ⟨d, hd, -⟩ := (haligned key id).mp hkey
    rw [if_neg, hd] at habsent
    · cases habsent
    · rintro rfl
      rw [h.nonempty] at hd
      cases hd
  · rename_i hkey
    exact hkey

/-! ### Sessions of a workspace -/

theorem length_workspaceSessions (workspaceId : String) :
    (workspaceSessions workspaceId r).length = r.sessions.count (inWorkspace workspaceId) :=
  List.countP_eq_length_filter.symm

theorem count_reservedIn_eq_zero {workspaceId : String}
    (h : (workspaceSessions workspaceId r).any (·.analysisReserved) = false) :
    r.sessions.count (reservedIn workspaceId) = 0 := by
  refine List.countP_eq_zero.mpr fun d hd hreserved => ?_
  obtain ⟨hworkspace, hd'⟩ := Bool.and_eq_true_iff.mp hreserved
  exact List.any_eq_false.mp h d (List.mem_filter.mpr ⟨hd, hworkspace⟩) hd'

/-! ### Expiry -/

variable [LinearOrder Time] {now : Time}

theorem mem_expiredItems : (id, d) ∈ expiredItems now r ↔
    r.sessions.get id = some d ∧ d.expiresAtEpoch ≤ now := by
  rw [expiredItems, List.mem_filter, mem_items_iff, decide_eq_true_eq]

theorem kept_cleaned (h : Kept r) : Kept (cleaned now r) := kept_releaseAll h

theorem aligned_cleaned (h : Aligned r) : Aligned (cleaned now r) := by
  refine aligned_releaseAll h (r.sessions.nodup.sublist (List.filter_sublist.map Prod.fst)) ?_
  rintro ⟨id, d⟩ hitem
  exact (mem_expiredItems.mp hitem).1

theorem get_cleaned : (cleaned now r).sessions.get id = some d ↔
    r.sessions.get id = some d ∧ now < d.expiresAtEpoch := by
  show (releaseAll (expiredItems now r) r).sessions.get id = some d ↔ _
  rw [get_releaseAll]
  split
  · rename_i hmem
    obtain ⟨⟨_, old⟩, hold, rfl⟩ := List.mem_map.mp hmem
    obtain ⟨hget, hexpired⟩ := mem_expiredItems.mp hold
    refine iff_of_false (Option.some_ne_none d).symm ?_
    rintro ⟨hd, hlt⟩
    rw [hget] at hd
    rw [← Option.some.inj hd] at hlt
    exact not_lt_of_ge hexpired hlt
  · rename_i hnot
    refine ⟨fun hget => ⟨hget, lt_of_not_ge fun hexpired => hnot ?_⟩, fun h => h.1⟩
    exact List.mem_map.mpr ⟨(id, d), mem_expiredItems.mpr ⟨hget, hexpired⟩, rfl⟩

theorem get_cleaned_of_none (h : r.sessions.get id = none) :
    (cleaned now r).sessions.get id = none := by
  cases hget : (cleaned now r).sessions.get id with
  | none => rfl
  | some d =>
      rw [(get_cleaned.mp hget).1] at h
      cases h

theorem deviceSessions_cleaned (haligned : Aligned r)
    (h : r.deviceSessions.get key = none) : (cleaned now r).deviceSessions.get key = none := by
  cases hkey : (cleaned now r).deviceSessions.get key with
  | none => rfl
  | some id =>
      obtain ⟨d, hd, hdkey⟩ := (aligned_cleaned haligned key id).mp hkey
      rw [(haligned key id).mpr ⟨d, (get_cleaned.mp hd).1, hdkey⟩] at h
      cases h

theorem count_cleaned_le {p : Descriptor Time → Bool} :
    (cleaned now r).sessions.count p ≤
      r.sessions.count fun d => p d && decide (now < d.expiresAtEpoch) := by
  have hsame : (cleaned now r).sessions.count p =
      (cleaned now r).sessions.count fun d => p d && decide (now < d.expiresAtEpoch) := by
    refine List.countP_congr fun d hd => ?_
    obtain ⟨id, hget⟩ := mem_values_iff.mp hd
    rw [decide_eq_true (get_cleaned.mp hget).2, Bool.and_true]
  rw [hsame]
  exact List.Sublist.countP_le values_releaseAll_sublist

/-! ### Coherence -/

def unexpired (now : Time) (workspaceId : String) (descriptor : Descriptor Time) : Bool :=
  decide (descriptor.workspaceId = workspaceId) && decide (now < descriptor.expiresAtEpoch)

structure Coherent (r : Registry Time) : Prop where
  device : Aligned r
  named : ∀ id descriptor, r.sessions.get id = some descriptor → descriptor.mediaSessionId = id
  bindings : ∀ id, (r.receiverBindings.get id).isSome ↔ (r.sessions.get id).isSome
  started : ∀ id ∈ r.startedReceivers, (r.sessions.get id).isSome
  limit : ∀ now workspaceId, r.sessions.count (unexpired now workspaceId) ≤ 3
  reserved : ∀ now workspaceId,
    r.sessions.count (fun d => unexpired now workspaceId d && d.analysisReserved) ≤ 1

theorem coherent_iff (h : Kept r) : Coherent r ↔ Aligned r := by
  refine ⟨fun hcoherent => hcoherent.device, fun haligned => ?_⟩
  constructor
  · exact haligned
  · exact h.named
  · exact h.bindings
  · exact h.started
  · intro now workspaceId
    refine (count_mono fun d hd => ?_).trans (h.limit workspaceId)
    exact (Bool.and_eq_true_iff.mp hd).1
  · intro now workspaceId
    refine (count_mono fun d hd => ?_).trans (h.reserved workspaceId)
    obtain ⟨hunexpired, hreserved⟩ := Bool.and_eq_true_iff.mp hd
    exact Bool.and_eq_true_iff.mpr ⟨(Bool.and_eq_true_iff.mp hunexpired).1, hreserved⟩

end MindscapeLocalCore.MediaTransport.RegistryCoherence
