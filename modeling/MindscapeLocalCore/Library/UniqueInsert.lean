import Mathlib.Data.List.Pairwise
import MindscapeLocalCore.Library.Guarded
/-!
Inserting into a table with unique indexes. Two rows clash where an index does not let
them stand together; an insertion may resolve the clashes of one index itself, and those
of the others end it.
-/

namespace MindscapeLocalCore.Library.UniqueInsert

open Guarded

variable {α : Type} {arbiter others clash : α → α → Prop} {resolve : α → α} {row old : α}
  {rows rows' : List α}

/-- `INSERT`. -/
def insertRow (clash : α → α → Prop) [DecidableRel clash] (row : α) (rows : List α) :
    Option (List α) :=
  if ∃ old ∈ rows, clash row old then none else some (rows ++ [row])

/-- Rewrite the rows that clash with a new one. -/
def resolved (arbiter : α → α → Prop) [DecidableRel arbiter] (resolve : α → α) (row : α)
    (rows : List α) : List α :=
  rows.map fun old => if arbiter row old then resolve old else old

/-- `INSERT … ON CONFLICT … DO UPDATE`: the arbiter is asked before the other indexes. -/
def insertOnConflict (arbiter others : α → α → Prop) [DecidableRel arbiter]
    [DecidableRel others] (resolve : α → α) (row : α) (rows : List α) : Option (List α) :=
  if ∃ old ∈ rows, arbiter row old then some (resolved arbiter resolve row rows)
  else insertRow others row rows

def Apart (clash : α → α → Prop) (rows : List α) : Prop :=
  rows.Pairwise fun row other => ¬ clash row other

theorem apart_append (h : Apart clash rows) (hrow : ∀ old ∈ rows, ¬ clash old row) :
    Apart clash (rows ++ [row]) := by
  rw [Apart, List.pairwise_append]
  refine ⟨h, List.pairwise_singleton _ _, fun old hmem other hother => ?_⟩
  rw [List.mem_singleton.mp hother]
  exact hrow old hmem

theorem eq_of_apart (h : Apart clash rows) (hsymm : ∀ row other, clash row other → clash other row)
    (hrow : row ∈ rows) (hold : old ∈ rows) (hclash : clash row old) : row = old := by
  by_contra hne
  have : Std.Symm fun row other => ¬ clash row other :=
    ⟨fun row other hapart hclash => hapart (hsymm other row hclash)⟩
  exact h.forall hrow hold hne hclash

theorem apart_map {f : α → α} (h : Apart clash rows)
    (hf : ∀ row other, clash (f row) (f other) → clash row other) :
    Apart clash (rows.map f) :=
  List.pairwise_map.mpr (h.imp fun hapart hclash => hapart (hf _ _ hclash))

variable [DecidableRel arbiter] [DecidableRel others]

theorem insertRow_eq_some [DecidableRel clash] :
    insertRow clash row rows = some rows' ↔
      (∀ old ∈ rows, ¬ clash row old) ∧ rows' = rows ++ [row] := by
  rw [insertRow]
  split
  · rename_i hclash
    obtain ⟨old, hmem, hold⟩ := hclash
    exact iff_of_false (by simp) fun h => h.1 old hmem hold
  · rename_i hapart
    rw [Option.some.injEq, eq_comm]
    refine (and_iff_right fun old hmem hold => ?_).symm
    exact hapart ⟨old, hmem, hold⟩

theorem insertOnConflict_eq_some :
    insertOnConflict arbiter others resolve row rows = some rows' ↔
      (∃ old ∈ rows, arbiter row old) ∧ rows' = resolved arbiter resolve row rows ∨
        (∀ old ∈ rows, ¬ arbiter row old) ∧ (∀ old ∈ rows, ¬ others row old) ∧
          rows' = rows ++ [row] := by
  rw [insertOnConflict]
  split
  · rename_i hconflict
    obtain ⟨old, hmem, hold⟩ := hconflict
    rw [Option.some.injEq, eq_comm, and_iff_right ⟨old, hmem, hold⟩]
    exact (or_iff_left fun h => h.1 old hmem hold).symm
  · rename_i hnone
    rw [insertRow_eq_some, or_iff_right fun h => hnone h.1]
    refine (and_iff_right fun old hmem hold => ?_).symm
    exact hnone ⟨old, hmem, hold⟩

theorem insertOnConflict_isSome :
    (insertOnConflict arbiter others resolve row rows).isSome = true ↔
      ((∃ old ∈ rows, others row old) → ∃ old ∈ rows, arbiter row old) := by
  rw [Option.isSome_iff_exists]
  constructor
  · rintro ⟨rows', h⟩ ⟨old, hmem, hold⟩
    rcases insertOnConflict_eq_some.mp h with ⟨hconflict, -⟩ | ⟨-, hnone, -⟩
    · exact hconflict
    · exact absurd hold (hnone old hmem)
  · intro h
    by_cases hconflict : ∃ old ∈ rows, arbiter row old
    · exact ⟨_, insertOnConflict_eq_some.mpr (.inl ⟨hconflict, rfl⟩)⟩
    · refine ⟨_, insertOnConflict_eq_some.mpr (.inr ⟨?_, ?_, rfl⟩)⟩
      · exact fun old hmem hold => hconflict ⟨old, hmem, hold⟩
      · exact fun old hmem hold => hconflict (h ⟨old, hmem, hold⟩)

theorem resolved_eq_self (h : ∀ old ∈ rows, arbiter row old → resolve old = old) :
    resolved arbiter resolve row rows = rows := by
  have hsame : ∀ old ∈ rows, (if arbiter row old then resolve old else old) = id old := by
    intro old hmem
    by_cases hold : arbiter row old
    · rw [if_pos hold, h old hmem hold, id]
    · rw [if_neg hold, id]
  rw [resolved, List.map_congr_left hsame, List.map_id]

theorem mem_resolved :
    old ∈ resolved arbiter resolve row rows ↔
      (∃ first ∈ rows, arbiter row first ∧ resolve first = old) ∨
        old ∈ rows ∧ ¬ arbiter row old := by
  rw [resolved, List.mem_map]
  constructor
  · rintro ⟨first, hmem, hsame⟩
    by_cases hfirst : arbiter row first
    · rw [if_pos hfirst] at hsame
      exact .inl ⟨first, hmem, hfirst, hsame⟩
    · rw [if_neg hfirst] at hsame
      subst hsame
      exact .inr ⟨hmem, hfirst⟩
  · rintro (⟨first, hmem, hfirst, rfl⟩ | ⟨hmem, hold⟩)
    · exact ⟨first, hmem, if_pos hfirst⟩
    · exact ⟨old, hmem, if_neg hold⟩

/-! ### Several rows -/

def insertAll (arbiter others : α → α → Prop) [DecidableRel arbiter] [DecidableRel others]
    (resolve : α → α → α) (news rows : List α) : Option (List α) :=
  news.foldlM (fun rows row => insertOnConflict arbiter others (resolve row) row rows) rows

def Absent (clash : α → α → Prop) (row : α) (rows : List α) : Prop :=
  ∀ old ∈ rows, ¬ clash row old

variable {update : α → α → α} {news : List α}

@[simp] theorem insertAll_nil : insertAll arbiter others update [] rows = some rows := rfl

theorem insertAll_cons :
    insertAll arbiter others update (row :: news) rows =
      (insertOnConflict arbiter others (update row) row rows).bind
        (insertAll arbiter others update news) := by
  rw [insertAll, List.foldlM_cons]
  rfl

theorem insertAll_cons_eq_some :
    insertAll arbiter others update (row :: news) rows = some rows' ↔
      ∃ between, insertOnConflict arbiter others (update row) row rows = some between ∧
        insertAll arbiter others update news between = some rows' := by
  rw [insertAll_cons, Option.bind_eq_some_iff]

theorem invariant_of_insertAll (holds : List α → Prop)
    (hstep : ∀ row ∈ news, ∀ rows rows', holds rows →
      insertOnConflict arbiter others (update row) row rows = some rows' → holds rows')
    (hrows : holds rows) (h : insertAll arbiter others update news rows = some rows') :
    holds rows' := by
  induction news generalizing rows with
  | nil => exact Option.some.inj h ▸ hrows
  | cons row news ih =>
      obtain ⟨between, hfirst, hrest⟩ := insertAll_cons_eq_some.mp h
      exact ih (fun row hmem => hstep row (List.mem_cons_of_mem _ hmem))
        (hstep row List.mem_cons_self rows between hrows hfirst) hrest

theorem foldlM_eq_ok {σ ε : Type} (arbiter others : α → α → Prop) [DecidableRel arbiter]
    [DecidableRel others] (update : α → α → α) (place : List α → σ) (check : α → Prop)
    {write : σ → α → Except ε σ} {s' : σ}
    (hwrite : ∀ row ∈ news, ∀ rows s', write (place rows) row = .ok s' ↔
      check row ∧ ∃ rows', insertOnConflict arbiter others (update row) row rows = some rows' ∧
        s' = place rows') :
    news.foldlM write (place rows) = .ok s' ↔
      (∀ row ∈ news, check row) ∧
        ∃ rows', insertAll arbiter others update news rows = some rows' ∧ s' = place rows' := by
  induction news generalizing rows with
  | nil => simp [eq_comm]
  | cons row news ih =>
      have ih' := fun rows => @ih rows fun row hmem => hwrite row (List.mem_cons_of_mem _ hmem)
      simp only [List.foldlM_cons, bind_eq_ok, hwrite row List.mem_cons_self,
        List.forall_mem_cons, insertAll_cons_eq_some]
      constructor
      · rintro ⟨-, ⟨hcheck, between, hfirst, rfl⟩, hrest⟩
        obtain ⟨hchecks, rows', hrows', rfl⟩ := (ih' between).mp hrest
        exact ⟨⟨hcheck, hchecks⟩, rows', ⟨between, hfirst, hrows'⟩, rfl⟩
      · rintro ⟨⟨hcheck, hchecks⟩, rows', ⟨between, hfirst, hrows'⟩, rfl⟩
        exact ⟨_, ⟨hcheck, between, hfirst, rfl⟩,
          (ih' between).mpr ⟨hchecks, rows', hrows', rfl⟩⟩

theorem absent_resolved (hkeeps : ∀ new old, clash new (resolve old) ↔ clash new old) {new : α} :
    Absent clash new (resolved arbiter resolve row rows) ↔ Absent clash new rows := by
  have hsame : ∀ old, clash new (if arbiter row old then resolve old else old) ↔
      clash new old := by
    intro old
    split
    · exact hkeeps new old
    · rfl
  simp only [Absent, resolved, List.forall_mem_map, hsame]

theorem exists_of_not_absent (h : ¬ Absent clash row rows) : ∃ old ∈ rows, clash row old := by
  by_contra hnone
  exact h fun old hmem hold => hnone ⟨old, hmem, hold⟩

theorem absent_append {new : α} :
    Absent clash new (rows ++ [row]) ↔ Absent clash new rows ∧ ¬ clash new row := by
  simp only [Absent, List.forall_mem_append, List.forall_mem_singleton]

theorem insertAll_isSome_of_never (h : ∀ row old, ¬ others row old) :
    (insertAll arbiter others update news rows).isSome = true := by
  induction news generalizing rows with
  | nil => rfl
  | cons row news ih =>
      obtain ⟨between, hfirst⟩ := Option.isSome_iff_exists.mp
        (insertOnConflict_isSome.mpr fun ⟨old, _, hold⟩ => absurd hold (h row old) :
          (insertOnConflict arbiter others (update row) row rows).isSome = true)
      rw [insertAll_cons, hfirst]
      exact ih

theorem insertAll_isSome_of_conflict
    (hkeeps : ∀ row new old, arbiter new (update row old) ↔ arbiter new old)
    (h : ∀ row ∈ news, ¬ Absent arbiter row rows) :
    (insertAll arbiter others update news rows).isSome = true := by
  induction news generalizing rows with
  | nil => rfl
  | cons row news ih =>
      have hfirst : insertOnConflict arbiter others (update row) row rows =
          some (resolved arbiter (update row) row rows) :=
        insertOnConflict_eq_some.mpr
          (.inl ⟨exists_of_not_absent (h row List.mem_cons_self), rfl⟩)
      rw [insertAll_cons, hfirst]
      refine ih fun other hother => ?_
      rw [absent_resolved (hkeeps row)]
      exact h other (List.mem_cons_of_mem _ hother)

/-- Where rows that the arbiter takes for one are one row, all of them are inserted exactly
when those that the arbiter does not find keep out of the way of the table and of each
other. -/
theorem insertAll_isSome
    (harbiter : ∀ row new old, arbiter new (update row old) ↔ arbiter new old)
    (hothers : ∀ row new old, others new (update row old) ↔ others new old)
    (hsymm : ∀ row other, others row other → others other row)
    (hself : ∀ row ∈ news, arbiter row row)
    (hkey : ∀ row ∈ news, ∀ other ∈ news, arbiter row other → row = other) :
    (insertAll arbiter others update news rows).isSome = true ↔
      ∀ row ∈ news, Absent arbiter row rows → Absent others row rows ∧
        ∀ other ∈ news, Absent arbiter other rows → others row other → row = other := by
  induction news generalizing rows with
  | nil => simp
  | cons first news ih =>
      have ih' := fun rows => @ih rows
        (fun row hmem => hself row (List.mem_cons_of_mem _ hmem))
        (fun row hmem other hother =>
          hkey row (List.mem_cons_of_mem _ hmem) other (List.mem_cons_of_mem _ hother))
      rw [insertAll_cons]
      by_cases hconflict : ∃ old ∈ rows, arbiter first old
      · have hfirst : insertOnConflict arbiter others (update first) first rows =
            some (resolved arbiter (update first) first rows) :=
          insertOnConflict_eq_some.mpr (.inl ⟨hconflict, rfl⟩)
        have hpresent : ¬ Absent arbiter first rows := by
          obtain ⟨old, hmem, hold⟩ := hconflict
          exact fun habsent => habsent old hmem hold
        rw [hfirst, Option.bind_some, ih']
        simp only [absent_resolved (harbiter first), absent_resolved (hothers first),
          List.forall_mem_cons, hpresent, false_implies, true_and]
      · have habsent : Absent arbiter first rows :=
          fun old hmem hold => hconflict ⟨old, hmem, hold⟩
        by_cases hblocked : ∃ old ∈ rows, others first old
        · have hfirst : insertOnConflict arbiter others (update first) first rows = none := by
            rw [insertOnConflict, if_neg hconflict, insertRow, if_pos hblocked]
          rw [hfirst]
          refine iff_of_false (by simp) fun h => ?_
          obtain ⟨old, hmem, hold⟩ := hblocked
          exact (h first List.mem_cons_self habsent).1 old hmem hold
        · have hfree : Absent others first rows :=
            fun old hmem hold => hblocked ⟨old, hmem, hold⟩
          have hfirst : insertOnConflict arbiter others (update first) first rows =
              some (rows ++ [first]) :=
            insertOnConflict_eq_some.mpr (.inr ⟨habsent, hfree, rfl⟩)
          rw [hfirst, Option.bind_some, ih']
          simp only [absent_append]
          constructor
          · intro h row hrow hmissing
            -- A row that the arbiter takes for the first one is the first one.
            have hapart : ∀ other ∈ first :: news, other ≠ first → ¬ arbiter other first :=
              fun other hother hne hclash => hne (hkey other hother first List.mem_cons_self hclash)
            by_cases hsame : row = first
            · subst hsame
              refine ⟨hfree, fun other hother hmissing' hclash => ?_⟩
              by_contra hne
              have hlater := (List.mem_cons.mp hother).resolve_left (Ne.symm hne)
              exact (h other hlater ⟨hmissing', hapart other hother (Ne.symm hne)⟩).1.2
                (hsymm _ _ hclash)
            · have hlater := (List.mem_cons.mp hrow).resolve_left hsame
              obtain ⟨⟨hout, hnofirst⟩, hrest⟩ := h row hlater ⟨hmissing, hapart row hrow hsame⟩
              refine ⟨hout, fun other hother hmissing' hclash => ?_⟩
              have hne : other ≠ first := by
                rintro rfl
                exact hnofirst hclash
              exact hrest other ((List.mem_cons.mp hother).resolve_left hne)
                ⟨hmissing', hapart other hother hne⟩ hclash
          · rintro h row hrow ⟨hmissing, hapart⟩
            have hne : row ≠ first := by
              rintro rfl
              exact hapart (hself row List.mem_cons_self)
            obtain ⟨hout, hrest⟩ := h row (List.mem_cons_of_mem _ hrow) hmissing
            refine ⟨⟨hout, fun hclash => hne (hrest first List.mem_cons_self habsent hclash)⟩, ?_⟩
            intro other hother hmissing' hclash
            exact hrest other (List.mem_cons_of_mem _ hother) hmissing'.1 hclash

/-! ### The same rows again -/

theorem absent_of_insertOnConflict {new : α}
    (harbiter : ∀ row new old, arbiter new (update row old) ↔ arbiter new old)
    (h : insertOnConflict arbiter others (update row) row rows = some rows')
    (habsent : Absent arbiter new rows') : Absent arbiter new rows := by
  rcases insertOnConflict_eq_some.mp h with ⟨-, rfl⟩ | ⟨-, -, rfl⟩
  · exact (absent_resolved (harbiter row)).mp habsent
  · exact (absent_append.mp habsent).1

theorem present_of_insertOnConflict
    (harbiter : ∀ row new old, arbiter new (update row old) ↔ arbiter new old)
    (hself : arbiter row row)
    (h : insertOnConflict arbiter others (update row) row rows = some rows') :
    ¬ Absent arbiter row rows' := by
  intro habsent
  rcases insertOnConflict_eq_some.mp h with ⟨⟨old, hmem, hold⟩, rfl⟩ | ⟨-, -, rfl⟩
  · exact (absent_resolved (harbiter row)).mp habsent old hmem hold
  · exact (absent_append.mp habsent).2 hself

theorem present_of_insertAll
    (h : insertAll arbiter others update news rows = some rows')
    (harbiter : ∀ row new old, arbiter new (update row old) ↔ arbiter new old)
    (hself : ∀ row ∈ news, arbiter row row) :
    ∀ row ∈ news, ¬ Absent arbiter row rows' := by
  induction news generalizing rows with
  | nil => simp
  | cons first news ih =>
      obtain ⟨between, hfirst, hrest⟩ := insertAll_cons_eq_some.mp h
      refine List.forall_mem_cons.mpr
        ⟨?_, ih hrest fun row hmem => hself row (List.mem_cons_of_mem _ hmem)⟩
      have hpresent := present_of_insertOnConflict harbiter (hself first List.mem_cons_self) hfirst
      refine invariant_of_insertAll (fun rows => ¬ Absent arbiter first rows)
        (fun row _ rows rows' hpresent hinsert habsent => ?_) hpresent hrest
      exact hpresent (absent_of_insertOnConflict harbiter hinsert habsent)

def Settled (arbiter : α → α → Prop) (update : α → α → α) (row : α) (rows : List α) : Prop :=
  ∀ old ∈ rows, arbiter row old → update row old = old

theorem settled_insertOnConflict {new : α} (hsettled : Settled arbiter update new rows)
    (hmade : ∀ old, update new (update row old) = update row old) (hnew : update new row = row)
    (h : insertOnConflict arbiter others (update row) row rows = some rows') :
    Settled arbiter update new rows' := by
  intro old hmem hclash
  rcases insertOnConflict_eq_some.mp h with ⟨-, rfl⟩ | ⟨-, -, rfl⟩
  · rcases mem_resolved.mp hmem with ⟨first, -, -, rfl⟩ | ⟨hold, -⟩
    · exact hmade first
    · exact hsettled old hold hclash
  · rcases List.mem_append.mp hmem with hold | hlast
    · exact hsettled old hold hclash
    · rw [List.mem_singleton.mp hlast, hnew]

theorem settled_of_insertOnConflict
    (hmade : ∀ old, update row (update row old) = update row old) (hnew : update row row = row)
    (h : insertOnConflict arbiter others (update row) row rows = some rows') :
    Settled arbiter update row rows' := by
  intro old hmem hclash
  rcases insertOnConflict_eq_some.mp h with ⟨-, rfl⟩ | ⟨habsent, -, rfl⟩
  · rcases mem_resolved.mp hmem with ⟨first, -, -, rfl⟩ | ⟨-, hnone⟩
    · exact hmade first
    · exact absurd hclash hnone
  · rcases List.mem_append.mp hmem with hold | hlast
    · exact absurd hclash (habsent old hold)
    · rw [List.mem_singleton.mp hlast, hnew]

theorem settled_of_insertAll
    (h : insertAll arbiter others update news rows = some rows')
    (hmade : ∀ row ∈ news, ∀ other ∈ news, ∀ old,
      update row (update other old) = update other old)
    (hnew : ∀ row ∈ news, ∀ other ∈ news, update row other = other) :
    ∀ row ∈ news, Settled arbiter update row rows' := by
  induction news generalizing rows with
  | nil => simp
  | cons first news ih =>
      obtain ⟨between, hfirst, hrest⟩ := insertAll_cons_eq_some.mp h
      have hlater : ∀ {row}, row ∈ news → row ∈ first :: news := List.mem_cons_of_mem _
      refine List.forall_mem_cons.mpr
        ⟨?_, ih hrest
          (fun row hmem other hother => hmade row (hlater hmem) other (hlater hother))
          fun row hmem other hother => hnew row (hlater hmem) other (hlater hother)⟩
      have hsettled := settled_of_insertOnConflict
        (hmade first List.mem_cons_self first List.mem_cons_self)
        (hnew first List.mem_cons_self first List.mem_cons_self) hfirst
      exact invariant_of_insertAll (Settled arbiter update first)
        (fun row hrow rows rows' hsettled hinsert => settled_insertOnConflict hsettled
          (hmade first List.mem_cons_self row (hlater hrow))
          (hnew first List.mem_cons_self row (hlater hrow)) hinsert) hsettled hrest

theorem insertAll_of_settled (hpresent : ∀ row ∈ news, ¬ Absent arbiter row rows)
    (hsettled : ∀ row ∈ news, Settled arbiter update row rows) :
    insertAll arbiter others update news rows = some rows := by
  induction news with
  | nil => rfl
  | cons row news ih =>
      have hfirst : insertOnConflict arbiter others (update row) row rows = some rows := by
        rw [insertOnConflict, if_pos (exists_of_not_absent (hpresent row List.mem_cons_self)),
          resolved_eq_self (hsettled row List.mem_cons_self)]
      exact insertAll_cons_eq_some.mpr
        ⟨rows, hfirst, ih (fun row hmem => hpresent row (List.mem_cons_of_mem _ hmem))
          fun row hmem => hsettled row (List.mem_cons_of_mem _ hmem)⟩

/-! ### Rows that are kept -/

theorem insertOnConflict_keep (hkeep : ∀ old, resolve old = old)
    (h : insertOnConflict arbiter others resolve row rows = some rows') :
    rows' = rows ∨
      Absent arbiter row rows ∧ Absent others row rows ∧ rows' = rows ++ [row] := by
  rcases insertOnConflict_eq_some.mp h with ⟨-, rfl⟩ | hnew
  · exact .inl (resolved_eq_self fun old _ _ => hkeep old)
  · exact .inr hnew

theorem insertAll_keep (hkeep : ∀ row old, update row old = old)
    (h : insertAll arbiter others update news rows = some rows') :
    ∃ added, rows' = rows ++ added ∧ added.Sublist news := by
  induction news generalizing rows with
  | nil => exact ⟨[], (Option.some.inj h).symm.trans (List.append_nil _).symm, .slnil⟩
  | cons row news ih =>
      obtain ⟨between, hfirst, hrest⟩ := insertAll_cons_eq_some.mp h
      obtain ⟨added, rfl, hadded⟩ := ih hrest
      rcases insertOnConflict_keep (hkeep row) hfirst with rfl | ⟨-, -, rfl⟩
      · exact ⟨added, rfl, hadded.cons row⟩
      · refine ⟨row :: added, ?_, hadded.cons_cons row⟩
        rw [List.append_assoc, List.singleton_append]

theorem apart_insertAll (hsymm : ∀ row other, arbiter row other → arbiter other row)
    (hkeep : ∀ row old, update row old = old) (hapart : Apart arbiter rows)
    (h : insertAll arbiter others update news rows = some rows') : Apart arbiter rows' := by
  refine invariant_of_insertAll (Apart arbiter) (fun row _ rows rows' hrows hinsert => ?_) hapart h
  rcases insertOnConflict_keep (hkeep row) hinsert with rfl | ⟨habsent, -, rfl⟩
  · exact hrows
  · exact apart_append hrows fun old hold hclash => habsent old hold (hsymm old row hclash)

/-! ### Plain insertions, one after another -/

section Rows

variable {clash : α → α → Prop} [DecidableRel clash]

def insertRows (clash : α → α → Prop) [DecidableRel clash] (news rows : List α) :
    Option (List α) :=
  news.foldlM (fun rows row => insertRow clash row rows) rows

theorem insertRows_eq_some :
    insertRows clash news rows = some rows' ↔
      (∀ row ∈ news, Absent clash row rows) ∧
        news.Pairwise (fun row later => ¬ clash later row) ∧ rows' = rows ++ news := by
  induction news generalizing rows with
  | nil =>
      rw [insertRows, List.foldlM_nil, List.append_nil]
      constructor
      · rintro ⟨⟩
        exact ⟨fun _ hnil => absurd hnil List.not_mem_nil, List.Pairwise.nil, rfl⟩
      · rintro ⟨-, -, rfl⟩
        rfl
  | cons row news ih =>
      rw [insertRows, List.foldlM_cons, Option.bind_eq_bind, Option.bind_eq_some_iff]
      simp only [insertRow_eq_some, List.forall_mem_cons, List.pairwise_cons]
      constructor
      · rintro ⟨between, ⟨habsent, rfl⟩, hrest⟩
        obtain ⟨hlater, hapart, rfl⟩ := ih.mp hrest
        simp only [absent_append] at hlater
        exact ⟨⟨habsent, fun later hmem => (hlater later hmem).1⟩,
          ⟨fun later hmem => (hlater later hmem).2, hapart⟩, List.append_assoc ..⟩
      · rintro ⟨⟨habsent, hlater⟩, ⟨hfirst, hapart⟩, rfl⟩
        refine ⟨_, ⟨habsent, rfl⟩, ih.mpr ⟨fun later hmem => ?_, hapart, ?_⟩⟩
        · exact absent_append.mpr ⟨hlater later hmem, hfirst later hmem⟩
        · exact (List.append_assoc rows [row] news).symm

end Rows

end MindscapeLocalCore.Library.UniqueInsert
