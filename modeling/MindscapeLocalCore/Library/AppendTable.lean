import Mathlib.Logic.Function.Basic
import Mathlib.Data.List.Infix
import MindscapeLocalCore.Library.Table
import MindscapeLocalCore.Library.Trace
/-!
A table that transactions only append to. The rows of a transaction are pending
until it commits; a transaction sees the committed rows and its own. Under every
key the rows form a chain in which each row follows the ones before it.
-/

namespace MindscapeLocalCore.Library.AppendTable

open Table Trace

variable {τ κ ρ : Type}

structure Rows (τ ρ : Type) where
  committed : List ρ
  pending : τ → List ρ

namespace Rows

def empty : Rows τ ρ := ⟨[], fun _ => []⟩

def visible (rows : Rows τ ρ) (t : τ) : List ρ := rows.committed ++ rows.pending t

variable [DecidableEq τ]

def insert (rows : Rows τ ρ) (t : τ) (row : ρ) : Rows τ ρ :=
  { rows with pending := Function.update rows.pending t (rows.pending t ++ [row]) }

def commit (rows : Rows τ ρ) (t : τ) : Rows τ ρ where
  committed := rows.committed ++ rows.pending t
  pending := Function.update rows.pending t []

def rollback (rows : Rows τ ρ) (t : τ) : Rows τ ρ :=
  { rows with pending := Function.update rows.pending t [] }

end Rows

section Chains

variable (follows : List ρ → ρ → Prop)

def Chain (rows : List ρ) : Prop :=
  Along (fun before row => before ++ [row]) follows [] rows

theorem stateAfter_rows (start rows : List ρ) :
    stateAfter (fun before row => before ++ [row]) start rows = start ++ rows := by
  induction rows generalizing start with
  | nil => simp
  | cons first rest ih =>
      change stateAfter _ (start ++ [first]) rest = _
      rw [ih]
      simp

variable {follows} {rows before rest : List ρ} {row : ρ}

@[simp] theorem chain_nil : Chain follows [] := trivial

theorem chain_append_singleton :
    Chain follows (rows ++ [row]) ↔ Chain follows rows ∧ follows rows row := by
  rw [Chain, along_append_singleton, stateAfter_rows]
  rfl

theorem follows_of_chain (h : Chain follows (before ++ row :: rest)) : follows before row := by
  have hfollows := ok_of_along _ h
  rwa [stateAfter_rows] at hfollows

theorem chain_of_prefix (h : Chain follows rows) (hbefore : before <+: rows) :
    Chain follows before := by
  obtain ⟨rest, rfl⟩ := hbefore
  induction rest using List.reverseRecOn with
  | nil => simpa using h
  | append_singleton rest last ih =>
      rw [← List.append_assoc, chain_append_singleton] at h
      exact ih h.1

end Chains

variable [DecidableEq κ] (key : ρ → κ) (follows : List ρ → ρ → Prop)

/-- The rows that a transaction sees under a key form a chain, and no two
transactions have rows pending under one key. -/
structure Linear (rows : Rows τ ρ) : Prop where
  chain : ∀ k t, Chain follows (select key k (rows.visible t))
  exclusive : ∀ k t t', select key k (rows.pending t) ≠ [] →
    select key k (rows.pending t') ≠ [] → t = t'

variable {key follows} {rows : Rows τ ρ} {k : κ} {t t' : τ} {row : ρ}

theorem select_append (left right : List ρ) :
    select key k (left ++ right) = select key k left ++ select key k right :=
  List.filter_append ..

theorem select_visible :
    select key k (rows.visible t) =
      select key k rows.committed ++ select key k (rows.pending t) := select_append _ _

theorem linear_empty : Linear key follows (Rows.empty : Rows τ ρ) where
  chain _ _ := trivial
  exclusive _ _ _ h := absurd rfl h

theorem committed_chain (h : Linear key follows rows) (k : κ) (t : τ) :
    Chain follows (select key k rows.committed) := by
  apply chain_of_prefix (h.chain k t)
  rw [select_visible]
  exact List.prefix_append _ _

theorem visible_of_pending (h : Linear key follows rows) (hne : t ≠ t')
    (hpending : select key k (rows.pending t) ≠ []) :
    select key k (rows.visible t') = select key k rows.committed := by
  have hempty : select key k (rows.pending t') = [] := by
    by_contra hne'
    exact hne (h.exclusive k t t' hpending hne')
  rw [select_visible, hempty, List.append_nil]

variable [DecidableEq τ]

theorem linear_insert (h : Linear key follows rows)
    (hfollows : follows (select key (key row) (rows.visible t)) row)
    (hfree : ∀ t', t' ≠ t → select key (key row) (rows.pending t') = []) :
    Linear key follows (rows.insert t row) := by
  have hself : (rows.insert t row).pending t = rows.pending t ++ [row] :=
    Function.update_self ..
  have hother : ∀ t', t' ≠ t → (rows.insert t row).pending t' = rows.pending t' :=
    fun t' hne => Function.update_of_ne hne ..
  constructor
  · intro k t'
    rw [select_visible]
    by_cases ht : t' = t
    · subst ht
      rw [hself, select_append_singleton, ← List.append_assoc]
      change Chain follows (select key k rows.committed ++ _ ++ _)
      rw [← select_visible]
      by_cases hk : key row = k
      · subst hk
        rw [if_pos rfl]
        exact chain_append_singleton.mpr ⟨h.chain _ _, hfollows⟩
      · rw [if_neg hk, List.append_nil]
        exact h.chain _ _
    · rw [hother t' ht]
      change Chain follows (select key k rows.committed ++ _)
      rw [← select_visible]
      exact h.chain _ _
  · intro k first second hfirst hsecond
    have hpending : ∀ t', select key k ((rows.insert t row).pending t') ≠ [] → key row = k →
        t' = t := by
      intro t' hne hk
      by_contra ht
      rw [hother t' ht, ← hk] at hne
      exact hne (hfree t' ht)
    by_cases hk : key row = k
    · exact (hpending first hfirst hk).trans (hpending second hsecond hk).symm
    · have hsame : ∀ t', select key k ((rows.insert t row).pending t') =
          select key k (rows.pending t') := by
        intro t'
        by_cases ht : t' = t
        · subst ht
          rw [hself, select_append_singleton, if_neg hk, List.append_nil]
        · rw [hother t' ht]
      rw [hsame] at hfirst hsecond
      exact h.exclusive k first second hfirst hsecond

theorem pending_commit : (rows.commit t).pending t' = if t' = t then [] else rows.pending t' := by
  by_cases ht : t' = t
  · subst ht
    simp [Rows.commit]
  · simp [Rows.commit, ht]

theorem pending_rollback :
    (rows.rollback t).pending t' = if t' = t then [] else rows.pending t' := by
  by_cases ht : t' = t
  · subst ht
    simp [Rows.rollback]
  · simp [Rows.rollback, ht]

theorem visible_commit (h : Linear key follows rows) (k : κ) (t t' : τ) :
    select key k ((rows.commit t).visible t') = select key k (rows.visible t') ∨
      select key k (rows.pending t') = [] ∧
        select key k ((rows.commit t).visible t') = select key k (rows.visible t) := by
  have hcommitted : select key k ((rows.commit t).visible t') =
      select key k rows.committed ++ select key k (rows.pending t) ++
        select key k ((rows.commit t).pending t') := by
    rw [select_visible]
    change select key k (rows.committed ++ rows.pending t) ++ _ = _
    rw [select_append]
  rw [hcommitted, pending_commit]
  by_cases ht : t' = t
  · subst ht
    rw [if_pos rfl, select_nil, List.append_nil, ← select_visible]
    exact .inl rfl
  · rw [if_neg ht]
    by_cases hempty : select key k (rows.pending t') = []
    · rw [hempty, List.append_nil, ← select_visible]
      exact .inr ⟨rfl, rfl⟩
    · have hnone : select key k (rows.pending t) = [] := by
        by_contra hne
        exact ht (h.exclusive k t' t hempty hne)
      rw [hnone, List.append_nil, ← select_visible]
      exact .inl rfl

theorem linear_commit (h : Linear key follows rows) : Linear key follows (rows.commit t) := by
  constructor
  · intro k t'
    rcases visible_commit h k t t' with hsame | ⟨-, hgrown⟩
    · rw [hsame]
      exact h.chain k t'
    · rw [hgrown]
      exact h.chain k t
  · intro k first second hfirst hsecond
    rw [pending_commit] at hfirst hsecond
    split at hfirst
    · exact absurd rfl hfirst
    · split at hsecond
      · exact absurd rfl hsecond
      · exact h.exclusive k first second hfirst hsecond

theorem linear_rollback (h : Linear key follows rows) :
    Linear key follows (rows.rollback t) := by
  constructor
  · intro k t'
    rw [select_visible, pending_rollback]
    split
    · rw [select_nil, List.append_nil]
      exact committed_chain h k t
    · change Chain follows (select key k rows.committed ++ _)
      rw [← select_visible]
      exact h.chain k t'
  · intro k first second hfirst hsecond
    rw [pending_rollback] at hfirst hsecond
    split at hfirst
    · exact absurd rfl hfirst
    · split at hsecond
      · exact absurd rfl hsecond
      · exact h.exclusive k first second hfirst hsecond

end MindscapeLocalCore.Library.AppendTable
