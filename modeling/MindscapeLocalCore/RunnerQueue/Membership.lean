import MindscapeLocalCore.RunnerQueue.QueueStore
/-!
Where a task id is: what every step on the queues keeps, adds and removes.
-/

namespace MindscapeLocalCore.RunnerQueue.Membership

open Library.PythonText Library.Redis Library.Redis.Collection Library.RedisList QueueStore

variable {queues queues' : Queues} {packId shard taskId id item : String}
  {f : ShardQueues → ShardQueues} {deadline : ℚ} {sources : List String}

@[simp] theorem onShard_self : onShard packId f queues packId = f (queues packId) :=
  Function.update_self ..

theorem onShard_of_ne (hne : shard ≠ packId) : onShard packId f queues shard = queues shard :=
  Function.update_of_ne hne ..

/-! ### Being in a structure -/

def Holds (q : ShardQueues) (id : String) : Prop :=
  id ∈ q.pending ∨ id ∈ q.temp ∨ (q.processing.get id).isSome ∨ (q.delayed.get id).isSome ∨
    id ∈ q.deadletter

instance (q : ShardQueues) (id : String) : Decidable (Holds q id) :=
  inferInstanceAs (Decidable (_ ∨ _))

def Held (queues : Queues) (id : String) : Prop := ∃ shard, Holds (queues shard) id

theorem held_onShard (h : Held queues id)
    (hf : Holds (queues packId) id → Holds (f (queues packId)) id) :
    Held (onShard packId f queues) id := by
  obtain ⟨shard, hholds⟩ := h
  refine ⟨shard, ?_⟩
  by_cases hshard : shard = packId
  · subst hshard
    rw [onShard_self]
    exact hf hholds
  · rw [onShard_of_ne hshard]
    exact hholds

theorem held_enqueueTask (h : Held queues id) : Held (enqueueTask packId taskId queues) id := by
  apply held_onShard h
  rintro (hpending | hrest)
  · exact .inl (mem_lpush.mpr (.inr hpending))
  · exact .inr hrest

theorem held_enqueueTask_self : Held (enqueueTask packId taskId queues) taskId := by
  refine ⟨packId, .inl ?_⟩
  rw [enqueueTask, onShard_self]
  exact mem_lpush.mpr (.inl rfl)

theorem held_moveToTemp (h : Held queues id)
    (hmove : moveToTemp packId queues = some (item, queues')) : Held queues' id := by
  obtain ⟨⟨moved, pending, temp⟩, hlmove, heq⟩ := Option.map_eq_some_iff.mp hmove
  obtain ⟨rfl, rfl⟩ := Prod.mk.inj heq
  obtain ⟨-, htemp, hpending⟩ := mem_of_lmove hlmove
  apply held_onShard h
  rintro (hmem | hmem | hrest)
  · rcases (hpending id).mp hmem with rfl | hmem
    · refine .inr (.inl ?_)
      rw [htemp]
      exact mem_lpush.mpr (.inl rfl)
    · exact .inl hmem
  · refine .inr (.inl ?_)
    rw [htemp]
    exact mem_lpush.mpr (.inr hmem)
  · exact .inr (.inr hrest)

theorem isSome_put {c : Collection ℚ} {score : ℚ} :
    ((c.put taskId score).get id).isSome = true ↔ id = taskId ∨ (c.get id).isSome = true := by
  rw [get_put]
  by_cases heq : id = taskId <;> simp [heq]

theorem isSome_del {c : Collection ℚ} :
    ((c.del taskId).get id).isSome = true ↔ id ≠ taskId ∧ (c.get id).isSome = true := by
  rw [get_del]
  by_cases heq : id = taskId <;> simp [heq]

theorem held_moveToProcessing (h : Held queues id) :
    Held (moveToProcessing packId taskId deadline queues) id := by
  apply held_onShard h
  intro hholds
  by_cases heq : id = taskId
  · exact .inr (.inr (.inl (isSome_put.mpr (.inl heq))))
  · rcases hholds with hmem | hmem | hprocessing | hrest
    · exact .inl hmem
    · exact .inr (.inl ((mem_lremFirst_of_ne heq).mpr hmem))
    · exact .inr (.inr (.inl (isSome_put.mpr (.inr hprocessing))))
    · exact .inr (.inr (.inr hrest))

theorem held_promotePendingTaskById (h : Held queues id) :
    Held (promotePendingTaskById packId taskId deadline queues).2 id := by
  rw [promotePendingTaskById]
  split
  · exact h
  · simp only [removePendingAndProcess]
    split
    · apply held_onShard h
      intro hholds
      by_cases heq : id = strip taskId
      · exact .inr (.inr (.inl (isSome_put.mpr (.inl heq))))
      · rcases hholds with hmem | hmem | hprocessing | hrest
        · exact .inl ((mem_lremFirst_of_ne heq).mpr hmem)
        · exact .inr (.inl hmem)
        · exact .inr (.inr (.inl (isSome_put.mpr (.inr hprocessing))))
        · exact .inr (.inr (.inr hrest))
    · exact h

theorem held_touchVisibilityTimeout (h : Held queues id) :
    Held (touchVisibilityTimeout packId taskId deadline queues) id := by
  apply held_onShard h
  rintro (hmem | hmem | hprocessing | hrest)
  · exact .inl hmem
  · exact .inr (.inl hmem)
  · exact .inr (.inr (.inl (isSome_put.mpr (.inr hprocessing))))
  · exact .inr (.inr (.inr hrest))

theorem held_nackTaskToDelayed (h : Held queues id) :
    Held (nackTaskToDelayed packId taskId deadline queues) id := by
  apply held_onShard h
  intro hholds
  by_cases heq : id = taskId
  · exact .inr (.inr (.inr (.inl (isSome_put.mpr (.inl heq)))))
  · rcases hholds with hmem | hmem | hprocessing | hdelayed | hrest
    · exact .inl hmem
    · exact .inr (.inl hmem)
    · exact .inr (.inr (.inl (isSome_del.mpr ⟨heq, hprocessing⟩)))
    · exact .inr (.inr (.inr (.inl (isSome_put.mpr (.inr hdelayed)))))
    · exact .inr (.inr (.inr (.inr hrest)))

theorem held_moveToDeadletter (h : Held queues id) :
    Held (moveToDeadletter packId taskId queues) id := by
  apply held_onShard h
  intro hholds
  by_cases heq : id = taskId
  · exact .inr (.inr (.inr (.inr (mem_lpush.mpr (.inl heq)))))
  · rcases hholds with hmem | hmem | hprocessing | hdelayed | hdead
    · exact .inl hmem
    · exact .inr (.inl hmem)
    · exact .inr (.inr (.inl (isSome_del.mpr ⟨heq, hprocessing⟩)))
    · exact .inr (.inr (.inr (.inl hdelayed)))
    · exact .inr (.inr (.inr (.inr (mem_lpush.mpr (.inr hdead)))))

theorem held_ackTask (h : Held queues id) (hne : id ≠ taskId) :
    Held (ackTask packId taskId queues) id := by
  apply held_onShard h
  rintro (hmem | hmem | hprocessing | hrest)
  · exact .inl hmem
  · exact .inr (.inl hmem)
  · exact .inr (.inr (.inl (isSome_del.mpr ⟨hne, hprocessing⟩)))
  · exact .inr (.inr (.inr hrest))

/-! ### Rerouting -/

theorem held_removePending {shards : List String} (h : Held queues id)
    (hid : id ≠ taskId ∨ (removePending taskId shards queues).2 = 0) :
    Held (removePending taskId shards queues).1 id := by
  induction shards generalizing queues with
  | nil => exact h
  | cons first rest ih =>
      simp only [removePending] at hid ⊢
      apply ih
      · apply held_onShard h
        rintro (hmem | hrest)
        · refine .inl (mem_lremAll.mpr ⟨hmem, ?_⟩)
          rintro rfl
          rcases hid with hid | hid
          · exact hid rfl
          · exact lremAll_eq_zero.mp (Nat.eq_zero_of_add_eq_zero hid).1 hmem
        · exact .inr hrest
      · exact hid.imp_right fun hzero => (Nat.eq_zero_of_add_eq_zero hzero).2

theorem held_reroutePendingTask (h : Held queues id) :
    Held (reroutePendingTask packId taskId sources queues).2 id := by
  rw [reroutePendingTask]
  split
  · exact h
  · simp only [reroutePending]
    split
    · rename_i hzero
      exact held_removePending h (.inr hzero)
    · by_cases heq : id = strip taskId
      · rw [heq]
        exact held_enqueueTask_self
      · exact held_enqueueTask (held_removePending h (.inl heq))

/-! ### Reconciliation -/

variable {reenqueuePending : Bool}

theorem held_reconcileMembership_of_ne (h : Held queues id) (hne : id ≠ strip taskId) :
    Held (reconcileMembership packId taskId reenqueuePending queues) id := by
  rw [reconcileMembership]
  split
  · exact h
  · apply held_onShard h
    rintro (hmem | hmem | hprocessing | hdelayed | hdead)
    · have hkept : id ∈ (lremAll (strip taskId) (queues packId).pending).1 :=
        mem_lremAll.mpr ⟨hmem, hne⟩
      refine .inl ?_
      cases reenqueuePending with
      | true => exact mem_lpush.mpr (.inr hkept)
      | false => exact hkept
    · exact .inr (.inl (mem_lremAll.mpr ⟨hmem, hne⟩))
    · exact .inr (.inr (.inl (isSome_del.mpr ⟨hne, hprocessing⟩)))
    · exact .inr (.inr (.inr (.inl (isSome_del.mpr ⟨hne, hdelayed⟩))))
    · exact .inr (.inr (.inr (.inr hdead)))

theorem count_reconcileMembership (hid : strip taskId ≠ "") :
    (reconcileMembership packId taskId true queues packId).pending.count (strip taskId) = 1 := by
  rw [reconcileMembership, if_neg hid, onShard_self]
  change (lpush _ _).count _ = 1
  rw [lpush, List.count_cons_self, count_lremAll]

theorem held_reconcileMembership_true (h : Held queues id) :
    Held (reconcileMembership packId taskId true queues) id := by
  by_cases hne : id = strip taskId
  · by_cases hblank : strip taskId = ""
    · rw [reconcileMembership, if_pos hblank]
      exact h
    · refine ⟨packId, .inl (List.count_pos_iff.mp ?_)⟩
      rw [hne, count_reconcileMembership hblank]
      exact Nat.one_pos
  · exact held_reconcileMembership_of_ne h hne

def HeldBeyond (packId : String) (queues : Queues) (id : String) : Prop :=
  id ∈ (queues packId).deadletter ∨ ∃ shard, shard ≠ packId ∧ Holds (queues shard) id

theorem held_reconcileMembership_false_iff (hid : strip taskId ≠ "") :
    Held (reconcileMembership packId taskId false queues) (strip taskId) ↔
      HeldBeyond packId queues (strip taskId) := by
  rw [reconcileMembership, if_neg hid]
  constructor
  · rintro ⟨shard, hholds⟩
    by_cases hshard : shard = packId
    · subst hshard
      rw [onShard_self] at hholds
      rcases hholds with hmem | hmem | hprocessing | hdelayed | hdead
      · exact absurd rfl (mem_lremAll.mp hmem).2
      · exact absurd rfl (mem_lremAll.mp hmem).2
      · exact absurd rfl (isSome_del.mp hprocessing).1
      · exact absurd rfl (isSome_del.mp hdelayed).1
      · exact .inl hdead
    · rw [onShard_of_ne hshard] at hholds
      exact .inr ⟨shard, hshard, hholds⟩
  · rintro (hdead | ⟨shard, hshard, hholds⟩)
    · refine ⟨packId, ?_⟩
      rw [onShard_self]
      exact .inr (.inr (.inr (.inr hdead)))
    · refine ⟨shard, ?_⟩
      rw [onShard_of_ne hshard]
      exact hholds

end MindscapeLocalCore.RunnerQueue.Membership
