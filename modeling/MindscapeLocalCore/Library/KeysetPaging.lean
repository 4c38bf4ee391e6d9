import Mathlib

/-!
Pages of a list in descending order of a stamp, where the cursor of the next page is the stamp of
the last item, and a reader that follows the cursors to the end.
-/

namespace MindscapeLocalCore.Library.KeysetPaging

variable {β γ τ ε : Type}

structure Page (β τ : Type) where
  items : List β
  next : Option τ

def Page.map (f : β → γ) (page : Page β τ) : Page γ τ :=
  { items := page.items.map f, next := page.next }

/-- The pages from a cursor on, in at most `fuel` fetches. -/
def follow (fetch : Option τ → Except ε (Page β τ)) : ℕ → Option τ → Option (Except ε (List β))
  | 0, _ => none
  | fuel + 1, cursor =>
      match fetch cursor with
      | .error error => some (.error error)
      | .ok page =>
          match page.next with
          | none => some (.ok page.items)
          | some next => (follow fetch fuel (some next)).map fun rest => rest.map (page.items ++ ·)

theorem follow_map (fetch : Option τ → Except ε (Page β τ)) (f : β → γ) (fuel : ℕ)
    (cursor : Option τ) :
    follow (fun cursor => (fetch cursor).map (Page.map f)) fuel cursor =
      (follow fetch fuel cursor).map fun items => items.map (List.map f) := by
  induction fuel generalizing cursor with
  | zero => rfl
  | succ fuel ih =>
      rw [follow, follow]
      cases fetch cursor with
      | error error => rfl
      | ok page =>
          obtain ⟨items, next⟩ := page
          cases next with
          | none => rfl
          | some next =>
              show (follow (fun cursor => (fetch cursor).map (Page.map f)) fuel (some next)).map
                  (fun rest => rest.map (items.map f ++ ·)) =
                ((follow fetch fuel (some next)).map fun rest => rest.map (items ++ ·)).map
                  fun rest => rest.map (List.map f)
              rw [ih (some next), Option.map_map, Option.map_map]
              apply congrArg fun g => Option.map g (follow fetch fuel (some next))
              funext rest
              cases rest with
              | error error => rfl
              | ok rest => simp [Except.map]

theorem follow_add {fetch : Option τ → Except ε (Page β τ)} {fuel : ℕ} {cursor : Option τ}
    {read : Except ε (List β)} (h : follow fetch fuel cursor = some read) (more : ℕ) :
    follow fetch (fuel + more) cursor = some read := by
  induction fuel generalizing cursor read with
  | zero => cases h
  | succ fuel ih =>
      rw [Nat.add_right_comm, follow]
      rw [follow] at h
      cases hpage : fetch cursor with
      | error error =>
          rw [hpage] at h
          exact h
      | ok page =>
          rw [hpage] at h
          obtain ⟨items, next⟩ := page
          cases next with
          | none => exact h
          | some next =>
              obtain ⟨rest, hrest, heq⟩ := Option.map_eq_some_iff.mp h
              exact Option.map_eq_some_iff.mpr ⟨rest, ih hrest, heq⟩

/-! ### Windows of a sorted list -/

variable [LinearOrder τ] (stamp : β → τ) (rows : List β) (limit : ℕ)

def before (cursor : Option τ) : List β := rows.filter fun row => ∀ c ∈ cursor, stamp row < c

def keysetPage (cursor : Option τ) : Page β τ :=
  let items := (before stamp rows cursor).take limit
  { items := items
    next := if items.length = limit then items.getLast?.map stamp else none }

/-- No page ends between two rows of one stamp. -/
def Unsplit : Prop :=
  ∀ k, ∀ a ∈ rows[(k + 1) * limit - 1]?, ∀ b ∈ rows[(k + 1) * limit]?, stamp a ≠ stamp b

variable {stamp rows limit}

theorem before_none : before stamp rows none = rows :=
  List.filter_eq_self.mpr fun _ _ => decide_eq_true (by simp)

theorem before_some (c : τ) : before stamp rows (some c) = rows.filter fun row => stamp row < c := by
  simp [before]

theorem before_before {c : τ} {cursor : Option τ} (hc : ∀ later ∈ cursor, c < later) :
    before stamp (before stamp rows cursor) (some c) = before stamp rows (some c) := by
  rw [before_some, before_some, before, List.filter_filter]
  refine List.filter_congr fun row _ => ?_
  rw [← Bool.decide_and, decide_eq_decide]
  exact and_iff_left_of_imp fun hrow later hlater => lt_trans hrow (hc later hlater)

def Descending (stamp : β → τ) (rows : List β) : Prop :=
  rows.Pairwise fun a b => stamp b ≤ stamp a

theorem descending_before (h : Descending stamp rows) (cursor : Option τ) :
    Descending stamp (before stamp rows cursor) :=
  h.sublist List.filter_sublist

variable {last : β}

theorem before_last (h : Descending stamp rows) (hlast : rows[limit - 1]? = some last)
    (hlimit : 0 < limit) :
    before stamp rows (some (stamp last)) = before stamp (rows.drop limit) (some (stamp last)) := by
  rw [before_some, before_some]
  have hsplit : rows.filter (fun row => stamp row < stamp last) =
      (rows.take limit ++ rows.drop limit).filter fun row => stamp row < stamp last := by
    rw [List.take_append_drop]
  suffices hnil : (rows.take limit).filter (fun row => stamp row < stamp last) = [] by
    rw [hsplit, List.filter_append, hnil, List.nil_append]
  refine List.filter_eq_nil_iff.mpr fun row hrow => ?_
  obtain ⟨i, hi, rfl⟩ := List.mem_take_iff_getElem.mp hrow
  obtain ⟨hbound, rfl⟩ := List.getElem?_eq_some_iff.mp hlast
  have hle : stamp rows[limit - 1] ≤ stamp rows[i] := by
    rcases Nat.lt_or_ge i (limit - 1) with hlt | hge
    · exact List.pairwise_iff_getElem.mp h i (limit - 1) (by omega) hbound hlt
    · have : i = limit - 1 := by omega
      subst this
      exact le_refl _
  simpa using hle

theorem before_last_eq_drop_iff (h : Descending stamp rows) (hlast : rows[limit - 1]? = some last)
    (hlimit : 0 < limit) :
    before stamp rows (some (stamp last)) = rows.drop limit ↔
      ∀ b ∈ rows[limit]?, stamp last ≠ stamp b := by
  rw [before_last h hlast hlimit, before_some, List.filter_eq_self]
  obtain ⟨hbound, rfl⟩ := List.getElem?_eq_some_iff.mp hlast
  constructor
  · intro hall b hb heq
    obtain ⟨hnext, rfl⟩ := List.getElem?_eq_some_iff.mp hb
    have hmem : rows[limit] ∈ rows.drop limit :=
      List.mem_drop_iff_getElem.mpr ⟨0, by omega, by simp⟩
    exact absurd heq (ne_of_gt (of_decide_eq_true (hall _ hmem)))
  · intro hnext row hrow
    obtain ⟨i, hi, rfl⟩ := List.mem_drop_iff_getElem.mp hrow
    have hlimitBound : limit < rows.length := by omega
    have hne := hnext rows[limit] (List.getElem?_eq_getElem hlimitBound)
    have hlt : stamp rows[limit] < stamp rows[limit - 1] :=
      lt_of_le_of_ne (List.pairwise_iff_getElem.mp h (limit - 1) limit hbound hlimitBound
        (by omega)) (Ne.symm hne)
    have hle : stamp rows[i + limit] ≤ stamp rows[limit] := by
      rcases Nat.eq_zero_or_pos i with rfl | hpos
      · simp
      · exact List.pairwise_iff_getElem.mp h limit (i + limit) hlimitBound (by omega) (by omega)
    exact decide_eq_true (lt_of_le_of_lt (by simpa [Nat.add_comm] using hle) hlt)

omit [LinearOrder τ] in
theorem unsplit_iff (hlast : rows[limit - 1]? = some last) (hlimit : 0 < limit) :
    Unsplit stamp rows limit ↔
      (∀ b ∈ rows[limit]?, stamp last ≠ stamp b) ∧ Unsplit stamp (rows.drop limit) limit := by
  have hshift : ∀ k, (k + 1 + 1) * limit = limit + (k + 1) * limit := by
    intro k
    rw [Nat.succ_mul, Nat.add_comm]
  constructor
  · intro h
    constructor
    · intro b hb
      exact h 0 last (by simpa using hlast) b (by simpa using hb)
    · intro k a ha b hb
      rw [List.getElem?_drop] at ha hb
      refine h (k + 1) a ?_ b ?_
      · rw [hshift]
        have hpos : 0 < (k + 1) * limit := Nat.mul_pos (Nat.succ_pos k) hlimit
        rwa [Nat.add_sub_assoc hpos]
      · rwa [hshift]
  · rintro ⟨hfirst, hrest⟩ k a ha b hb
    cases k with
    | zero =>
        rw [Nat.zero_add, Nat.one_mul] at ha hb
        obtain rfl : last = a := Option.some.inj (hlast.symm.trans ha)
        exact hfirst b hb
    | succ k =>
        rw [hshift] at ha hb
        refine hrest k a ?_ b ?_
        · have hpos : 0 < (k + 1) * limit := Nat.mul_pos (Nat.succ_pos k) hlimit
          rwa [List.getElem?_drop, ← Nat.add_sub_assoc hpos]
        · rwa [List.getElem?_drop]

omit [LinearOrder τ] in
theorem unsplit_of_length_lt (h : rows.length < limit) : Unsplit stamp rows limit := by
  intro k a _ b hb
  have : rows.length ≤ (k + 1) * limit :=
    Nat.le_trans (Nat.le_of_lt h) (Nat.le_mul_of_pos_left limit (Nat.succ_pos k))
  rw [List.getElem?_eq_none this] at hb
  cases hb

theorem keysetPage_of_lt {cursor : Option τ} (h : (before stamp rows cursor).length < limit) :
    keysetPage stamp rows limit cursor = { items := before stamp rows cursor, next := none } := by
  have htake : (before stamp rows cursor).take limit = before stamp rows cursor :=
    List.take_of_length_le (Nat.le_of_lt h)
  rw [keysetPage, htake, if_neg (Nat.ne_of_lt h)]

theorem keysetPage_of_le {cursor : Option τ} (hlimit : 0 < limit)
    (h : limit ≤ (before stamp rows cursor).length) :
    ∃ last, (before stamp rows cursor)[limit - 1]? = some last ∧
      keysetPage stamp rows limit cursor =
        { items := (before stamp rows cursor).take limit, next := some (stamp last) } := by
  have hbound : limit - 1 < (before stamp rows cursor).length := by omega
  refine ⟨(before stamp rows cursor)[limit - 1], List.getElem?_eq_getElem hbound, ?_⟩
  have hlength : ((before stamp rows cursor).take limit).length = limit :=
    List.length_take_of_le h
  have hlast : ((before stamp rows cursor).take limit).getLast? =
      some (before stamp rows cursor)[limit - 1] := by
    rw [List.getLast?_eq_getElem?, hlength, List.getElem?_take_of_lt (by omega),
      List.getElem?_eq_getElem hbound]
  rw [keysetPage, hlast, if_pos hlength]
  rfl

/-- Following the cursors ends. It reads some of the rows in their order, and all of them exactly
where no page ends between two rows of one stamp. -/
theorem follow_keysetPage (hlimit : 0 < limit) (h : Descending stamp rows) (cursor : Option τ) :
    ∃ items,
      (∀ fuel, (before stamp rows cursor).length < fuel →
        follow (fun cursor => (.ok (keysetPage stamp rows limit cursor) : Except ε _)) fuel cursor =
          some (.ok items)) ∧
      items.Sublist (before stamp rows cursor) ∧
      (items = before stamp rows cursor ↔ Unsplit stamp (before stamp rows cursor) limit) := by
  -- by induction on how many rows are left before the cursor
  induction hn : (before stamp rows cursor).length using Nat.strongRecOn
    generalizing cursor with
  | ind n ih =>
      rcases Nat.lt_or_ge (before stamp rows cursor).length limit with hlt | hge
      · refine ⟨before stamp rows cursor, ?_, List.Sublist.refl _, ?_⟩
        · intro fuel hfuel
          obtain ⟨fuel, rfl⟩ := Nat.exists_eq_add_of_lt hfuel
          rw [follow, keysetPage_of_lt hlt]
        · exact iff_of_true rfl (unsplit_of_length_lt hlt)
      · obtain ⟨last, hlast, hpage⟩ := keysetPage_of_le hlimit hge
        have hsorted := descending_before h cursor
        have hbefore : before stamp rows (some (stamp last)) =
            before stamp (before stamp rows cursor) (some (stamp last)) := by
          refine (before_before fun later hlater => ?_).symm
          have hmem : last ∈ before stamp rows cursor := List.mem_of_getElem? hlast
          exact of_decide_eq_true (List.mem_filter.mp hmem).2 later hlater
        have hrest := before_last hsorted hlast hlimit
        have hsub : (before stamp rows (some (stamp last))).Sublist
            ((before stamp rows cursor).drop limit) := by
          rw [hbefore, hrest]
          exact List.filter_sublist
        have hlength : (before stamp rows (some (stamp last))).length < n := by
          have := hsub.length_le
          rw [List.length_drop] at this
          omega
        obtain ⟨items, hfollow, hitems, hall⟩ := ih _ hlength (some (stamp last)) rfl
        refine ⟨(before stamp rows cursor).take limit ++ items, ?_, ?_, ?_⟩
        · intro fuel hfuel
          obtain ⟨fuel, rfl⟩ : ∃ k, fuel = k + 1 := ⟨fuel - 1, by omega⟩
          rw [follow, hpage]
          simp only
          rw [hfollow fuel (by omega)]
          rfl
        · have happend : ((before stamp rows cursor).take limit ++ items).Sublist
              ((before stamp rows cursor).take limit ++ (before stamp rows cursor).drop limit) :=
            (List.Sublist.refl _).append (hitems.trans hsub)
          rwa [List.take_append_drop] at happend
        · have hcancel : (before stamp rows cursor).take limit ++ items =
              before stamp rows cursor ↔ items = (before stamp rows cursor).drop limit := by
            have hright : (before stamp rows cursor).take limit ++ items =
                (before stamp rows cursor).take limit ++ (before stamp rows cursor).drop limit ↔
                  items = (before stamp rows cursor).drop limit := List.append_right_inj _
            rwa [List.take_append_drop] at hright
          rw [hcancel, unsplit_iff hlast hlimit,
            ← before_last_eq_drop_iff hsorted hlast hlimit, ← hbefore]
          constructor
          · intro heq
            have hdrop : before stamp rows (some (stamp last)) =
                (before stamp rows cursor).drop limit :=
              hsub.eq_of_length_le (by rw [← heq]; exact hitems.length_le)
            exact ⟨hdrop, hdrop ▸ hall.mp (heq.trans hdrop.symm)⟩
          · rintro ⟨hdrop, hunsplit⟩
            rw [← hdrop] at hunsplit ⊢
            exact hall.mpr hunsplit

end MindscapeLocalCore.Library.KeysetPaging
