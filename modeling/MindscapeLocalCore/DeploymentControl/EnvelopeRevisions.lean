import MindscapeLocalCore.DeploymentControl.StateRepository
import MindscapeLocalCore.Library.Trace

/-!
The revisions of the envelopes that become active one after the other. They rise while the
row is managed; the row forgets them when it becomes `unmanaged_local`.
-/

namespace MindscapeLocalCore.DeploymentControl.EnvelopeRevisions

open Library StateRepository

structure Database where
  row : Option StoredRow
  /-- the hash of the active catalog -/
  catalog : Option String
  /-- the revisions of the envelopes that have become active, the first one first -/
  activated : List ℤ

/-- A call of `replace`, which may have looked for the row before there was one, or a change
of the active catalog. -/
inductive Event where
  | replace (call : Replacement) (early : Bool)
  | activateCatalog (hash : Option String)

/-- The row that the first statement of a call finds. -/
def Database.seen (s : Database) (early : Bool) : Option StoredRow :=
  if early then none else s.row

def Database.replace (s : Database) (call : Replacement) (early : Bool) : Outcome :=
  StateRepository.replace s.catalog (s.seen early) s.row call

def next (s : Database) : Event → Database
  | .activateCatalog hash => { s with catalog := hash }
  | .replace call early =>
      match s.replace call early with
      | .replaced new _ =>
          { s with
            row := some new
            activated := s.activated ++ new.row.envelopeRevision.toList }
      | _ => s

def fresh (catalog : Option String) : Database :=
  { row := none
    catalog := catalog
    activated := [] }

def Database.stateRevision (s : Database) : ℤ := s.row.elim 0 fun stored => stored.row.stateRevision

/-- A replacement counts the state up by one, a stale call that asks for a change raises, and
a call that raises leaves the row unchanged. -/
structure Counted (s : Database) (call : Replacement) (early : Bool) : Prop where
  byOne : ∀ new state, s.replace call early = .replaced new state →
    new.row.stateRevision = s.stateRevision + 1
  stale : ∀ current, rowToState (s.seen early) = some current → ¬ call.Same current →
    current.stateRevision ≠ call.expectedStateRevision → (s.replace call early).raises = true
  unchanged : (s.replace call early).raises = true → (next s (.replace call early)).row = s.row

def Consistent (s : Database) : Event → Prop
  | .activateCatalog _ => True
  | .replace call early => Counted s call early

/-- An envelope that takes over from `unmanaged_local` is later than all that were active. -/
def Later (s : Database) : Event → Prop
  | .activateCatalog _ => True
  | .replace call early => ∀ current, Applies s.catalog (s.seen early) s.row call current →
      ∀ envelope, call.envelope = some envelope → current.envelopeRevision = none →
        ∀ revision ∈ s.activated, revision < envelope.document.claims.envelopeRevision

/-- An envelope that is stored is valid also as the column keeps it. -/
def Readable (s : Database) : Event → Prop
  | .activateCatalog _ => True
  | .replace call early => ∀ current, Applies s.catalog (s.seen early) s.row call current →
      ∀ envelope, call.envelope = some envelope → envelope.document.withoutNul.valid = true

/-- The active envelope is the one that became active last. -/
def Remembered (s : Database) : Prop :=
  ∀ stored, s.row = some stored → ∀ revision, stored.row.envelopeRevision = some revision →
    s.activated.getLast? = some revision

variable {s : Database} {call : Replacement} {early : Bool} {current : State}

theorem seen_of_applies (h : Applies s.catalog (s.seen early) s.row call current) :
    s.seen early = s.row := by
  rw [Database.seen]
  split
  · rename_i hearly
    refine (h.first ?_).symm
    rw [Database.seen, if_pos hearly]
  · rfl

theorem reads_row (h : Applies s.catalog (s.seen early) s.row call current) :
    rowToState s.row = some current := by
  rw [← seen_of_applies h]
  exact h.reads

theorem stateRevision_of_reads (h : rowToState s.row = some current) :
    current.stateRevision = s.stateRevision := by
  rw [Database.stateRevision]
  rw [rowToState.eq_def] at h
  split at h
  · rename_i hrow
    rw [hrow, ← Option.some.inj h]
    rfl
  · rename_i stored hrow
    split at h
    · rw [hrow, ← Option.some.inj h]
      rfl
    · cases h

theorem envelopeRevision_of_reads (h : rowToState s.row = some current) {revision : ℤ}
    (hrevision : current.envelopeRevision = some revision) :
    ∃ stored, s.row = some stored ∧ stored.row.envelopeRevision = some revision := by
  rw [rowToState.eq_def] at h
  split at h
  · rw [← Option.some.inj h] at hrevision
    cases hrevision
  · rename_i stored hrow
    split at h
    · refine ⟨stored, hrow, ?_⟩
      rw [← Option.some.inj h] at hrevision
      exact hrevision
    · cases h

theorem next_of_applies (h : Applies s.catalog (s.seen early) s.row call current) :
    next s (.replace call early) =
      { s with
        row := some ⟨replacementParams call (current.stateRevision + 1), h.fits⟩
        activated := s.activated ++
          (call.envelope.map fun envelope => envelope.document.claims.envelopeRevision).toList } := by
  rw [next, Database.replace, replace_of_applies h]
  rw [← envelopeRevision_replacementParams]

theorem next_of_not_applies
    (h : ¬ ∃ current, Applies s.catalog (s.seen early) s.row call current) :
    next s (.replace call early) = s := by
  rw [next]
  split
  · rename_i new state hreplaced
    exact absurd (applies_of_replaced hreplaced) h
  · rfl

theorem remembered_next (h : Remembered s) (event : Event) : Remembered (next s event) := by
  cases event with
  | activateCatalog hash => exact h
  | replace call early =>
      by_cases happlies : ∃ current, Applies s.catalog (s.seen early) s.row call current
      · obtain ⟨current, happlies⟩ := happlies
        rw [next_of_applies happlies]
        intro stored hstored revision hrevision
        obtain rfl := Option.some.inj hstored
        rw [envelopeRevision_replacementParams] at hrevision
        show (s.activated ++ _).getLast? = _
        rw [hrevision]
        exact List.getLast?_concat
      · rw [next_of_not_applies happlies]
        exact h

theorem later_of_applies (h : Applies s.catalog (s.seen early) s.row call current)
    {envelope : SignedEnvelope} (henvelope : call.envelope = some envelope) {revision : ℤ}
    (hrevision : current.envelopeRevision = some revision) :
    revision < envelope.document.claims.envelopeRevision := by
  have hfailure := h.envelope
  rw [henvelope, Option.bind_some, envelopeFailure] at hfailure
  split at hfailure
  · cases hfailure
  · split at hfailure
    · cases hfailure
    · rename_i hlater
      rw [hrevision, Option.getD_some] at hlater
      exact not_le.mp hlater

theorem le_getLast {revisions : List ℤ} (h : revisions.Pairwise (· < ·)) {last : ℤ}
    (hlast : revisions.getLast? = some last) : ∀ revision ∈ revisions, revision ≤ last := by
  obtain ⟨before, rfl⟩ := List.getLast?_eq_some_iff.mp hlast
  intro revision hrevision
  rcases List.mem_append.mp hrevision with hbefore | hsame
  · exact le_of_lt ((List.pairwise_append.mp h).2.2 revision hbefore last
      (List.mem_singleton_self last))
  · exact le_of_eq (List.mem_singleton.mp hsame)

theorem rising_next_iff (hremembered : Remembered s) {event : Event} :
    (next s event).activated.Pairwise (· < ·) ↔
      s.activated.Pairwise (· < ·) ∧ Later s event := by
  cases event with
  | activateCatalog hash => exact (and_iff_left trivial).symm
  | replace call early =>
      by_cases happlies : ∃ current, Applies s.catalog (s.seen early) s.row call current
      · obtain ⟨current, happlies⟩ := happlies
        rw [next_of_applies happlies]
        show (s.activated ++ _).Pairwise (· < ·) ↔ _
        cases henvelope : call.envelope with
        | none =>
            rw [Option.map_none, Option.toList_none, List.append_nil]
            refine (and_iff_left ?_).symm
            intro current' _ envelope hsome
            rw [henvelope] at hsome
            cases hsome
        | some envelope =>
            rw [Option.map_some, Option.toList_some, List.pairwise_append]
            constructor
            · rintro ⟨hrising, -, hlater⟩
              refine ⟨hrising, fun current' _ envelope' hsome _ revision hrevision => ?_⟩
              obtain rfl := Option.some.inj (henvelope.symm.trans hsome)
              exact hlater revision hrevision _ (List.mem_singleton_self _)
            · rintro ⟨hrising, hlater⟩
              refine ⟨hrising, List.pairwise_singleton .., fun revision hrevision new hnew => ?_⟩
              obtain rfl := List.mem_singleton.mp hnew
              cases hactive : current.envelopeRevision with
              | none => exact hlater current happlies envelope henvelope hactive revision hrevision
              | some active =>
                  obtain ⟨stored, hrow, hstored⟩ :=
                    envelopeRevision_of_reads (reads_row happlies) hactive
                  have hle := le_getLast hrising (hremembered stored hrow active hstored)
                    revision hrevision
                  exact hle.trans_lt (later_of_applies happlies henvelope hactive)
      · rw [next_of_not_applies happlies]
        refine (and_iff_left ?_).symm
        intro current hcurrent
        exact absurd ⟨current, hcurrent⟩ happlies

theorem reads_back_iff (h : Applies s.catalog (s.seen early) s.row call current) :
    (s.replace call early).raises = false ↔
      ∀ envelope, call.envelope = some envelope → envelope.document.withoutNul.valid = true := by
  rw [Database.replace, replace_of_applies h]
  show (rowToState _).isNone = false ↔ _
  have hcolumn : (replacementParams call (current.stateRevision + 1)).activeEnvelope =
      call.envelope.map fun envelope => envelope.document.withoutNul := rfl
  rw [rowToState]
  dsimp only
  rw [hcolumn]
  cases henvelope : call.envelope with
  | none =>
      refine iff_of_true rfl ?_
      intro envelope hsome
      cases hsome
  | some envelope =>
      rw [Option.map_some, Option.all_some]
      split
      · rename_i hvalid
        refine iff_of_true rfl fun envelope' hsome => ?_
        obtain rfl := Option.some.inj hsome
        exact hvalid
      · rename_i hinvalid
        refine iff_of_false (Bool.noConfusion ·) fun hall => ?_
        exact hinvalid (hall envelope rfl)

theorem consistent_iff {event : Event} : Consistent s event ↔ Readable s event := by
  cases event with
  | activateCatalog hash => exact Iff.rfl
  | replace call early =>
      constructor
      · intro hcounted current happlies
        refine (reads_back_iff happlies).mp ?_
        by_contra hraises
        have hrow := hcounted.unchanged (Bool.eq_true_of_not_eq_false hraises)
        -- the row that was written counts one more
        rw [next_of_applies happlies] at hrow
        have hrevision := stateRevision_of_reads (reads_row happlies)
        rw [Database.stateRevision, ← hrow] at hrevision
        have hcount : current.stateRevision = current.stateRevision + 1 := hrevision
        omega
      · intro hreadable
        refine ⟨fun new state hreplaced => ?_, fun current hreads hdiffers hstale => ?_,
          fun hraises => ?_⟩
        · obtain ⟨current, happlies⟩ := applies_of_replaced hreplaced
          rw [Database.replace, replace_of_applies happlies] at hreplaced
          obtain ⟨rfl, -⟩ := Outcome.replaced.inj hreplaced
          rw [← stateRevision_of_reads (reads_row happlies)]
          rfl
        · rw [Database.replace, replace_of_stale hreads hdiffers hstale]
          rfl
        · by_cases happlies : ∃ current, Applies s.catalog (s.seen early) s.row call current
          · obtain ⟨current, happlies⟩ := happlies
            rw [(reads_back_iff happlies).mpr (hreadable current happlies)] at hraises
            cases hraises
          · rw [next_of_not_applies happlies]

/-- In every run the revisions of the envelopes rise, and every call counts as it should,
exactly when each envelope that takes over from `unmanaged_local` is later than all before it
and each one that is stored is valid as it is kept. -/
theorem revisions_rise_iff (catalog : Option String) (events : List Event) :
    ((Trace.stateAfter next (fresh catalog) events).activated.Pairwise (· < ·) ∧
        Trace.Along next Consistent (fresh catalog) events) ↔
      Trace.Along next (fun s event => Later s event ∧ Readable s event) (fresh catalog) events := by
  have hremembered : Remembered (fresh catalog) := by
    intro stored hstored
    cases hstored
  have hrising : (Trace.stateAfter next (fresh catalog) events).activated.Pairwise (· < ·) ↔
      (fresh catalog).activated.Pairwise (· < ·) ∧ Trace.Along next Later (fresh catalog) events :=
    Trace.holds_iff_along (fun s => s.activated.Pairwise (· < ·)) (fun s _ => Remembered s)
      (fun s event _ h => remembered_next h event) (fun s event _ h => rising_next_iff h)
      hremembered
  have hstart : (fresh catalog).activated.Pairwise (· < ·) := List.Pairwise.nil
  rw [Trace.along_and, hrising, and_iff_right hstart,
    Trace.along_congr fun s event => consistent_iff]

def digits (digit : Char) : String := String.ofList (List.replicate 64 digit)

def envelopeOf (revision : ℤ) (h : 1 ≤ revision) : SignedEnvelope :=
  { document := {
      claims := {
        issuer := "issuer"
        audience := "audience"
        providerCode := "cloud"
        sourceRuntimeId := "runtime"
        tenantId := "tenant"
        siteId := "site"
        catalogHash := digits 'c'
        issuedAt := 0
        notBefore := 1
        expiresAt := 2
        envelopeRevision := revision
        allowedProducts := [{
          pcsId := "studio"
          pcsVersion := "1.0.0"
          surfaceIds := ["studio.workbench"]
          packClosure := [{
            provider := "cloud"
            code := "studio"
            version := "1.0.0" }] }] }
      kid := "key"
      signature := String.ofList (List.replicate 86 'a') }
    valid := by
      rw [Document.valid, decide_eq_true h]
      rfl }

def manage (expected : ℤ) (envelope : SignedEnvelope) (hash : String) : Event :=
  .replace
    { expectedStateRevision := expected
      mode := providerManaged
      providerCode := some "cloud"
      envelope := some envelope
      envelopeHash := some hash
      actorUserId := "operator" } false

def unmanage (expected : ℤ) : Event :=
  .replace
    { expectedStateRevision := expected
      mode := unmanagedLocal
      providerCode := none
      envelope := none
      envelopeHash := none
      actorUserId := "operator" } false

/-- An envelope of revision 2 becomes active, the row becomes unmanaged, and an envelope of
revision 1 becomes active. -/
def rollback : List Event :=
  [manage 0 (envelopeOf 2 (by decide)) (digits '2'), unmanage 1,
    manage 2 (envelopeOf 1 (by decide)) (digits '1')]

theorem earlier_revision_returns :
    ¬ ((Trace.stateAfter next (fresh (some (digits 'c'))) rollback).activated.Pairwise (· < ·) ∧
        Trace.Along next Consistent (fresh (some (digits 'c'))) rollback) := by
  rintro ⟨hrising, -⟩
  have hactivated :
      (Trace.stateAfter next (fresh (some (digits 'c'))) rollback).activated = [2, 1] := by
    decide
  rw [hactivated] at hrising
  exact absurd hrising (by decide)

end MindscapeLocalCore.DeploymentControl.EnvelopeRevisions
