import Mathlib.Algebra.Order.Group.Int
import Mathlib.Data.List.Basic
import Mathlib.Data.Rat.Floor
import MindscapeLocalCore.Library.Dictionary

/-!
Hashes and sorted sets of a Redis server: fields under a key that may lapse at a
deadline. A key exists as long as it has a field, and a command finds nothing
under a key whose deadline has passed.
-/

namespace MindscapeLocalCore.Library.Redis

open Dictionary

variable {α : Type}

/-- A hash, or a sorted set with the scores of its members. -/
structure Collection (α : Type) where
  fields : Dict String α
  deadline : Option ℚ

namespace Collection

def missing : Collection α := ⟨∅, none⟩

/-- What commands at a time find under the key. -/
def settled (now : ℚ) (c : Collection α) : Collection α :=
  match c.deadline with
  | none => c
  | some deadline => if deadline < now then missing else c

/-- `HGET` and `ZSCORE`. -/
def get (field : String) (c : Collection α) : Option α := c.fields.lookup field

/-- `HLEN` and `ZCARD`. -/
def card (c : Collection α) : ℕ := c.fields.entries.length

/-- `HSET` and `ZADD`. A key that the command creates has no deadline. -/
def put (field : String) (value : α) (c : Collection α) : Collection α where
  fields := c.fields.insert field value
  deadline := if c.card = 0 then none else c.deadline

/-- `HDEL` and `ZREM`. -/
def del (field : String) (c : Collection α) : Collection α :=
  { c with fields := c.fields.erase field }

/-- `TTL`: the whole seconds left, `-1` without a deadline, `-2` without a key. -/
def ttl (now : ℚ) (c : Collection α) : ℤ :=
  if c.card = 0 then -2
  else match c.deadline with
    | none => -1
    | some deadline => ⌊deadline - now + 1 / 2⌋

/-- The server keeps deadlines as 64-bit milliseconds. -/
def Expirable (now : ℚ) (seconds : ℤ) : Prop := 1000 * (now + seconds) < 2 ^ 63

instance (now : ℚ) (seconds : ℤ) : Decidable (Expirable now seconds) :=
  inferInstanceAs (Decidable (_ < _))

def expire (now : ℚ) (seconds : ℤ) (c : Collection α) : Option (Collection α) :=
  if Expirable now seconds then some { c with deadline := some (now + seconds) }
  else none

/-- `ZRANGEBYSCORE key -inf now`. -/
def membersUpTo (now : ℚ) (c : Collection ℚ) : List String :=
  (c.fields.entries.filter fun e => decide (e.2 ≤ now)).map (·.1)

variable {now : ℚ} {c : Collection α} {field field' : String} {value : α}

theorem mem_membersUpTo {c : Collection ℚ} :
    field ∈ c.membersUpTo now ↔ ∃ score, c.get field = some score ∧ score ≤ now := by
  constructor
  · intro h
    obtain ⟨⟨k, score⟩, hmem, rfl⟩ := List.mem_map.mp h
    obtain ⟨hentry, hscore⟩ := List.mem_filter.mp hmem
    exact ⟨score, mem_entries_iff.mp hentry, of_decide_eq_true hscore⟩
  · rintro ⟨score, hget, hscore⟩
    apply List.mem_map.mpr
    exact ⟨⟨field, score⟩,
      List.mem_filter.mpr ⟨mem_entries_iff.mpr hget, decide_eq_true hscore⟩, rfl⟩

@[simp] theorem get_missing : (missing : Collection α).get field = none :=
  AList.lookup_empty field

theorem get_put :
    (c.put field value).get field' =
      if field' = field then some value else c.get field' := by
  by_cases h : field' = field
  · subst h
    simp [put, get]
  · simp [put, get, h]

theorem get_del :
    (c.del field).get field' = if field' = field then none else c.get field' := by
  by_cases h : field' = field
  · subst h
    simp [del, get]
  · simp [del, get, h]

theorem del_all (fields : List String) (c : Collection α) :
    fields.foldl (fun c field => c.del field) c =
      { c with fields := eraseAll fields c.fields } := by
  induction fields generalizing c with
  | nil => rfl
  | cons first rest ih => exact ih (c.del first)

theorem card_eq_length_keys : c.card = c.fields.keys.length := by
  simp [card, AList.keys, List.keys]

theorem get_isSome_iff : (c.get field).isSome = true ↔ field ∈ c.fields.keys :=
  AList.lookup_isSome

theorem card_ne_zero_of_get (h : c.get field = some value) : c.card ≠ 0 := by
  rw [card_eq_length_keys]
  intro hzero
  have hmem : field ∈ c.fields.keys := get_isSome_iff.mp (by rw [h]; rfl)
  rw [List.length_eq_zero_iff.mp hzero] at hmem
  exact List.not_mem_nil hmem

theorem exists_get_of_card_ne_zero (h : c.card ≠ 0) :
    ∃ field value, c.get field = some value := by
  obtain ⟨entry, hmem⟩ := List.exists_mem_of_length_pos (Nat.pos_of_ne_zero h)
  exact ⟨entry.1, entry.2, mem_entries_iff.mp hmem⟩

theorem card_congr {β : Type} {d : Collection β}
    (h : ∀ field, (c.get field).isSome = (d.get field).isSome) : c.card = d.card := by
  rw [card_eq_length_keys, card_eq_length_keys]
  apply List.Perm.length_eq
  apply (List.perm_ext_iff_of_nodup c.fields.keys_nodup d.fields.keys_nodup).mpr
  intro field
  rw [← get_isSome_iff, ← get_isSome_iff, h]

theorem card_put_ne_zero : (c.put field value).card ≠ 0 := by
  simp [put, card, AList.entries_insert]

theorem ttl_of_deadline_none (hcard : c.card ≠ 0) (h : c.deadline = none) :
    c.ttl now = -1 := by
  rw [ttl, if_neg hcard, h]

theorem ttl_of_deadline {deadline : ℚ} (hcard : c.card ≠ 0) (h : c.deadline = some deadline) :
    c.ttl now = ⌊deadline - now + 1 / 2⌋ := by
  rw [ttl, if_neg hcard, h]

end Collection

end MindscapeLocalCore.Library.Redis

/-!
Lists of a Redis server, with the head first.
-/

namespace MindscapeLocalCore.Library.RedisList

variable {α : Type} {x y : α} {list source destination source' destination' : List α}

def lpush (x : α) (list : List α) : List α := x :: list

/-- The element that `LMOVE source destination RIGHT LEFT` moves, and the two lists. -/
def lmove (source destination : List α) : Option (α × List α × List α) :=
  source.getLast?.map fun x => (x, source.dropLast, lpush x destination)

/-- `LRANGE`: both ends are in it, and a negative one counts from the tail. -/
def lrange (start stop : ℤ) (list : List α) : List α :=
  let length : ℤ := list.length
  let start := max 0 (if start < 0 then start + length else start)
  let stop := min (length - 1) (if stop < 0 then stop + length else stop)
  if stop < start then [] else (list.drop start.toNat).take (stop - start + 1).toNat

theorem lrange_eq {start stop : ℤ} (hstart : 0 ≤ start) (hstop : start ≤ stop)
    (hlength : stop < list.length) :
    lrange start stop list = (list.drop start.toNat).take (stop - start + 1).toNat := by
  have hlow : (if start < 0 then start + (list.length : ℤ) else start) = start :=
    if_neg (not_lt.mpr hstart)
  have hhigh : (if stop < 0 then stop + (list.length : ℤ) else stop) = stop :=
    if_neg (by omega)
  rw [lrange]
  simp only [hlow, hhigh]
  rw [max_eq_right hstart, min_eq_right (by omega), if_neg (not_lt.mpr hstop)]

@[simp] theorem mem_lpush : y ∈ lpush x list ↔ y = x ∨ y ∈ list := List.mem_cons

theorem mem_of_lmove (h : lmove source destination = some (x, source', destination')) :
    x ∈ source ∧ destination' = lpush x destination ∧
      ∀ y, y ∈ source ↔ y = x ∨ y ∈ source' := by
  obtain ⟨last, hlast, heq⟩ := Option.map_eq_some_iff.mp h
  obtain ⟨rfl, hrest⟩ := Prod.mk.inj heq
  obtain ⟨rfl, rfl⟩ := Prod.mk.inj hrest
  refine ⟨List.mem_of_getLast? hlast, rfl, fun y => ?_⟩
  have hsource : source = source.dropLast ++ [last] :=
    (List.dropLast_append_getLast? last hlast).symm
  conv_lhs => rw [hsource]
  simp [or_comm]

variable [DecidableEq α]

/-- `LREM key 1 element`: the first occurrence goes. -/
def lremFirst (x : α) (list : List α) : List α := list.erase x

/-- `LREM key 0 element`: every occurrence goes. The reply is their number. -/
def lremAll (x : α) (list : List α) : List α × ℕ := (list.filter (· ≠ x), list.count x)

theorem mem_lremFirst_of_ne (hne : y ≠ x) : y ∈ lremFirst x list ↔ y ∈ list :=
  List.mem_erase_of_ne hne

@[simp] theorem mem_lremAll : y ∈ (lremAll x list).1 ↔ y ∈ list ∧ y ≠ x := by
  simp [lremAll]

theorem lremAll_eq_zero : (lremAll x list).2 = 0 ↔ x ∉ list := List.count_eq_zero

@[simp] theorem count_lremAll : (lremAll x list).1.count x = 0 := by
  apply List.count_eq_zero.mpr
  simp

end MindscapeLocalCore.Library.RedisList
