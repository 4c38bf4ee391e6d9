import MindscapeLocalCore.AccessControl.Runs
/-!
What a call that expects a revision of a scope can rely on. Administrative calls and
acceptances raise the revision with every write; the bootstraps and the import insert grants
and leave it as it is.
-/

namespace MindscapeLocalCore.AccessControl.Revisions

open Bootstrap Repository Runs Schema Writes Library.Guarded Library.Table Library.Trace
open Library.UniqueInsert

def scopeView (scope : Scope) (tables : Tables) : List Grant × List Invitation :=
  (tables.grants.filter fun grant => decide (grant.status = .active ∧ grant.scope = scope),
   tables.invitations.filter fun invitation => decide (invitation.scope = scope))

def Operation.expects : Operation → Option (Scope × ℤ)
  | .createInvitation _ scope _ _ _ _ _ expected => some (scope, expected)
  | .upsertGrant _ _ scope _ _ expected => some (scope, expected)
  | .revokeGrant _ scope _ expected => some (scope, expected)
  | _ => none

/-- The scope of an administrative call or of an acceptance. -/
def governed (tables : Tables) : Operation → Option Scope
  | .acceptInvitation _ tokenHash _ _ =>
      (lookup Invitation.tokenHash tokenHash tables.invitations).map Invitation.scope
  | operation => (Operation.expects operation).map Prod.fst

/-- Granting a role on the scope changes none of its grants without a new revision: the scope
has no policy yet, or the principal has its grant. -/
def QuietGrant (tables : Tables) (principalId : String) (scope : Scope) : Prop :=
  tables.revision scope = 0 ∨ ∃ grant ∈ tables.grants, grant.Active principalId scope

/-- No bootstrap or import inserts a grant into a scope that has a policy. -/
def Quiet (p : Platform) (tables : Tables) (call : Call) : Prop :=
  match call.operation with
  | .importVerifiedGrant identity _ scope _ _ =>
      QuietGrant tables (importedPrincipalId p identity) scope
  | .ensureLocalRecoveryOwner localUserId =>
      QuietGrant tables (localPrincipalId localUserId) localCore
  | .backfillWorkspaceOwners _ workspaces => ∀ owner ∈ owners workspaces,
      QuietGrant tables (localPrincipalId owner.ownerUserId) (workspace owner.workspaceId)
  | _ => True

variable {p : Platform} {tables tables' : Tables} {now : Timestamp} {scope other : Scope}
  {principalId actor : String} {expected revision : ℤ} {grant : Grant} {resolve : Grant → Grant}

/-! ### Revisions -/

theorem revision_eq_zero_or (h : Wellformed tables) (scope : Scope) :
    tables.revision scope = 0 ∧ lookup Policy.scope scope tables.policies = none ∨
      1 ≤ tables.revision scope := by
  cases hlookup : lookup Policy.scope scope tables.policies with
  | none =>
      rw [Tables.revision, hlookup]
      exact .inl ⟨rfl, rfl⟩
  | some policy =>
      rw [Tables.revision, hlookup]
      exact .inr (h.revisions policy (mem_of_lookup hlookup))

theorem revision_pos (h : Wellformed tables)
    (hpolicy : ∃ policy ∈ tables.policies, policy.scope = scope) : 1 ≤ tables.revision scope := by
  rcases revision_eq_zero_or h scope with ⟨-, hnone⟩ | hpos
  · obtain ⟨policy, hmem, rfl⟩ := hpolicy
    exact absurd (List.mem_map_of_mem hmem) (lookup_eq_none_iff.mp hnone)
  · exact hpos

theorem revision_append (hnone : lookup Policy.scope scope tables.policies = none)
    (revision : ℤ) :
    Tables.revision { tables with policies := tables.policies ++ [⟨scope, revision⟩] } other =
      if other = scope then revision else tables.revision other := by
  rw [Tables.revision, lookup_append_singleton]
  by_cases hsame : other = scope
  · subst hsame
    rw [hnone, if_pos rfl, if_pos rfl]
    rfl
  · rw [if_neg (Ne.symm hsame), Option.or_none, if_neg hsame]
    rfl

theorem revision_amend (f : ℤ → ℤ) (hpolicy : ∃ policy ∈ tables.policies, policy.scope = scope)
    {auditEvents : List AuditEvent} {invitations : List Invitation} :
    Tables.revision
        { tables with
          policies := amend Policy.scope scope
            (fun policy => { policy with revision := f policy.revision }) tables.policies
          invitations, auditEvents } other =
      if other = scope then f (tables.revision scope) else tables.revision other := by
  let raise : Policy → Policy := fun policy => { policy with revision := f policy.revision }
  have hlookup : lookup Policy.scope other (amend Policy.scope scope raise tables.policies) =
      if other = scope then (lookup Policy.scope scope tables.policies).map raise
      else lookup Policy.scope other tables.policies := lookup_amend raise fun _ h => h
  rw [Tables.revision, hlookup]
  by_cases hsame : other = scope
  · subst hsame
    rw [if_pos rfl, if_pos rfl, Tables.revision]
    cases hrow : lookup Policy.scope other tables.policies with
    | none =>
        obtain ⟨policy, hmem, rfl⟩ := hpolicy
        exact absurd (List.mem_map_of_mem hmem) (lookup_eq_none_iff.mp hrow)
    | some policy => rfl
  · rw [if_neg hsame, if_neg hsame]
    rfl

theorem revision_recordMutation {action : String} {target : Option String}
    {metadata : List (String × String)}
    (hpolicy : ∃ policy ∈ tables.policies, policy.scope = scope) :
    (recordMutation revision scope actor action target metadata tables).2.revision other =
      if other = scope then revision + 1 else tables.revision other :=
  revision_amend (fun _ => revision + 1) hpolicy

theorem revision_lockScope (h : lockScope scope expected tables = .ok (revision, tables')) :
    tables.revision scope = expected ∧ expected ≤ revision ∧
      ∀ other, other ≠ scope → tables'.revision other = tables.revision other := by
  rcases lockScope_eq_ok h with ⟨policy, hpolicy, hrevision, rfl, rfl⟩ |
    ⟨hnone, rfl, rfl, -, rfl⟩
  · refine ⟨?_, le_rfl, fun _ _ => rfl⟩
    rw [Tables.revision, hpolicy]
    exact hrevision
  · refine ⟨?_, by decide, fun other hne => ?_⟩
    · rw [Tables.revision, hnone]
      rfl
    · rw [revision_append hnone, if_neg hne]

/-! ### Views -/

theorem scopeView_lockScope (h : lockScope scope expected tables = .ok (revision, tables')) :
    scopeView other tables' = scopeView other tables := by
  rcases lockScope_eq_ok h with ⟨-, -, -, -, rfl⟩ | ⟨-, -, -, -, rfl⟩
  · rfl
  · rfl

theorem scopeView_insertGrant (hresolve : Resolves grant.roleKey resolve)
    (h : insertGrant resolve grant tables = .ok tables') (hne : other ≠ grant.scope) :
    scopeView other tables' = scopeView other tables := by
  obtain ⟨-, grants, rfl, ⟨-, rfl⟩ | ⟨-, -, rfl, -⟩⟩ := insertGrant_eq_ok h
  · refine Prod.ext (filter_map_of_kept fun old _ => ?_) rfl
    split
    · rename_i hsame
      have hapart : old.scope ≠ other := fun hscope => hne (hscope.symm.trans hsame.2.2.2.symm)
      simp only [hresolve.scope, hapart, and_false, false_implies, and_self]
    · exact ⟨Iff.rfl, fun _ => rfl⟩
  · refine Prod.ext ?_ rfl
    have hapart : ¬ (grant.status = .active ∧ grant.scope = other) := fun hrow => hne hrow.2.symm
    simp only [scopeView, List.filter_append, List.filter_singleton, hapart, decide_false]
    exact List.append_nil _

theorem scopeView_revoked (hne : other ≠ scope) :
    scopeView other
        { tables with
          grants := tables.grants.map fun grant =>
            if grant.Active principalId scope then revoked grant else grant } =
      scopeView other tables := by
  refine Prod.ext (filter_map_of_kept fun old _ => ?_) rfl
  split
  · rename_i hactive
    have hapart : old.scope ≠ other := fun hscope => hne (hscope.symm.trans hactive.2.2)
    simp [revoked, hapart]
  · exact ⟨Iff.rfl, fun _ => rfl⟩

/-! ### Administrative calls and acceptances -/

structure Raised (scope : Scope) (tables tables' : Tables) : Prop where
  raised : tables.revision scope < tables'.revision scope
  revisions : ∀ other, other ≠ scope → tables'.revision other = tables.revision other
  views : ∀ other, other ≠ scope → scopeView other tables' = scopeView other tables

theorem raised_recorded {locked written : Tables} {held : ℤ} {action : String}
    {target : Option String} {metadata : List (String × String)} (h : Wellformed tables)
    (hlock : lockScope scope expected tables = .ok (held, locked))
    (hrecord : (revision, tables') =
      recordMutation held scope actor action target metadata written)
    (hpolicies : written.policies = locked.policies)
    (hviews : ∀ other, other ≠ scope → scopeView other written = scopeView other locked) :
    tables.revision scope = expected ∧ Raised scope tables tables' := by
  obtain ⟨hexpected, hheld, hothers⟩ := revision_lockScope hlock
  obtain ⟨-, policy, hpolicy, hscope, -⟩ := wellformed_lockScope h hlock
  have hsame : tables' = (recordMutation held scope actor action target metadata written).2 :=
    congrArg Prod.snd hrecord
  have hrevision : ∀ other, tables'.revision other =
      if other = scope then held + 1 else locked.revision other := by
    intro other
    rw [hsame, revision_recordMutation ⟨policy, hpolicies ▸ hpolicy, hscope⟩]
    simp only [Tables.revision, hpolicies]
  refine ⟨hexpected, ?_, fun other hne => ?_, fun other hne => ?_⟩
  · rw [hexpected, hrevision, if_pos rfl]
    omega
  · rw [hrevision, if_neg hne, hothers other hne]
  · rw [hsame]
    exact (hviews other hne).trans (scopeView_lockScope hlock)

theorem raised_createInvitation {invitationId email tokenHash : String} {roleKey : Role}
    {expiresAt : Timestamp} (h : Wellformed tables)
    (hcreate : createInvitation invitationId scope email roleKey tokenHash expiresAt actor expected
      tables = .ok (revision, tables')) :
    tables.revision scope = expected ∧ Raised scope tables tables' := by
  obtain ⟨locked, held, invitation, hlock, -, -, hscope, -, hrecord⟩ :=
    createInvitation_eq_ok hcreate
  refine raised_recorded h hlock hrecord rfl fun other hne => Prod.ext rfl ?_
  have hapart : invitation.scope ≠ other := fun hsame => hne (hsame.symm.trans hscope)
  simp only [scopeView, List.filter_append, List.filter_singleton, hapart, decide_false]
  exact List.append_nil _

theorem raised_upsertGrant {grantId : String} {roleKey : Role} (h : Wellformed tables)
    (hupsert : upsertGrant now grantId principalId scope roleKey actor expected tables =
      .ok (revision, tables')) :
    tables.revision scope = expected ∧ Raised scope tables tables' := by
  obtain ⟨locked, held, granted, hlock, -, hgranted, hrecord⟩ := upsertGrant_eq_ok hupsert
  refine raised_recorded h hlock hrecord ?_ fun other hne => ?_
  · obtain ⟨-, grants, rfl, -⟩ := insertGrant_eq_ok hgranted
    rfl
  · exact scopeView_insertGrant resolves_regranted hgranted hne

theorem raised_revokeGrant (h : Wellformed tables)
    (hrevoke : revokeGrant now principalId scope actor expected tables =
      .ok (revision, tables')) :
    tables.revision scope = expected ∧ Raised scope tables tables' := by
  obtain ⟨locked, held, hlock, -, hrecord⟩ := revokeGrant_eq_ok hrevoke
  exact raised_recorded h hlock hrecord rfl fun other hne => scopeView_revoked hne

theorem raised_consumeInvitation {invitation : Invitation} (h : Wellformed tables)
    (hmem : invitation ∈ tables.invitations)
    (hconsume : consumeInvitation invitation.id principalId invitation.scope tables =
      .ok (revision, tables')) : Raised invitation.scope tables tables' := by
  obtain ⟨policy, auditEvents, hpolicy, rfl⟩ := consumeInvitation_eq_ok hconsume
  have hgoverned : ∃ policy ∈ tables.policies, policy.scope = invitation.scope :=
    ⟨policy, mem_of_lookup hpolicy, key_of_lookup hpolicy⟩
  refine ⟨?_, fun other hne => ?_, fun other hne => Prod.ext rfl ?_⟩
  · rw [revision_amend (fun revision => revision + 1) hgoverned, if_pos rfl]
    exact Int.lt_succ _
  · rw [revision_amend (fun revision => revision + 1) hgoverned, if_neg hne]
  · refine filter_map_of_kept fun row hrow => ?_
    split
    · rename_i hconsumed
      have hsame : row = invitation := eq_of_apart h.invitationKeys
        (fun _ _ => sameInvitation_symm) hrow hmem (.inl hconsumed.1)
      have hapart : row.scope ≠ other := fun hscope => hne (hscope.symm.trans (hsame ▸ rfl))
      simp only [accepted, hapart, false_implies, and_self]
    · exact ⟨Iff.rfl, fun _ => rfl⟩

theorem raised_acceptInvitation {ids : AcceptanceIds} {tokenHash verifiedEmail : String}
    {identity : VerifiedIdentity} {acceptance : Acceptance} (h : Wellformed tables)
    (haccept : acceptInvitation p now ids tokenHash identity verifiedEmail tables =
      .ok (acceptance, tables')) :
    ∃ invitation, lookup Invitation.tokenHash tokenHash tables.invitations = some invitation ∧
      Raised invitation.scope tables tables' := by
  obtain ⟨invitation, hvalid, principalId, bound, hbound, granted, hgranted, revision, hconsume, -⟩ :=
    acceptInvitation_eq_ok.mp haccept
  obtain ⟨hrow, -⟩ := validateInvitation_eq_ok.mp hvalid
  obtain ⟨hgrants, hinvitations, hpolicies⟩ := bound_grants hbound
  have hgranted' := wellformed_insertGrant (wellformed_bound h hbound) resolves_regranted rfl
    hgranted
  have hview : ∀ other, other ≠ invitation.scope →
      scopeView other granted = scopeView other tables := by
    intro other hne
    rw [scopeView_insertGrant resolves_regranted hgranted hne, scopeView, hgrants, hinvitations]
    rfl
  obtain ⟨-, grants, rfl, -⟩ := insertGrant_eq_ok hgranted
  have hrevision : ∀ other, Tables.revision { bound with grants } other =
      tables.revision other := by
    simp only [Tables.revision, hpolicies, implies_true]
  have hinvited : invitation ∈ bound.invitations := hinvitations ▸ mem_of_lookup hrow
  obtain ⟨hraised, hrevisions, hviews⟩ := raised_consumeInvitation hgranted' hinvited hconsume
  refine ⟨invitation, hrow, ?_, fun other hne => ?_, fun other hne => ?_⟩
  · exact hrevision invitation.scope ▸ hraised
  · exact (hrevisions other hne).trans (hrevision other)
  · exact (hviews other hne).trans (hview other hne)

/-! ### Bootstraps -/

theorem revision_ensurePolicy (hensure : ensurePolicy scope tables = .ok tables') :
    tables.revision other ≤ tables'.revision other := by
  rcases policies_of_ensurePolicy hensure with ⟨-, rfl⟩ | ⟨hnone, rfl⟩
  · exact le_rfl
  · rw [revision_append hnone]
    split
    · rename_i hsame
      subst hsame
      rw [Tables.revision, hnone]
      decide
    · exact le_rfl

variable {b : Rows}

theorem revision_insert (hinsert : b.insert tables = .ok tables') :
    tables.revision other ≤ tables'.revision other := by
  refine invariant_of_insert (fun written => tables.revision other ≤ written.revision other)
    le_rfl hinsert ?_ ?_ ?_ ?_
  · intro row _ written written' hle hensure
    obtain ⟨principals, -, rfl⟩ := ensurePrincipal_eq_ok.mp hensure
    exact hle
  · intro row _ written written' hle hensure
    obtain ⟨bindings, -, rfl⟩ := ensureBinding_eq_ok.mp hensure
    exact hle
  · intro scope _ written written' hle hensure
    exact hle.trans (revision_ensurePolicy hensure)
  · intro row _ written written' hle hgrant
    obtain ⟨-, grants, rfl, -⟩ := insertGrant_eq_ok hgrant
    exact hle

theorem scopeView_insert (hb : b.Coherent) (h : Wellformed tables)
    (hquiet : ∀ row ∈ b.grants, QuietGrant tables row.principalId row.scope)
    (hsteady : ∀ row ∈ b.grants, ∀ old, old.roleKey.Fits old.scope.scopeType →
      old.expiresAt = none → sameActive row old → b.updateGrant row old = old)
    (hinsert : b.insert tables = .ok tables')
    (hsame : tables'.revision scope = tables.revision scope) :
    scopeView scope tables' = scopeView scope tables := by
  have hfound : ∀ row ∈ b.grants, row.scope = scope →
      ∃ old ∈ (scopeView scope tables).1, sameActive row old := by
    intro row hrow hscope
    obtain ⟨-, principals, bindings, policies, grants, -, -, hpolicies, -, rfl⟩ :=
      (insert_eq_ok hb).mp hinsert
    have hpolicy := exists_policy hpolicies row.scope (hb.governed row hrow)
    have hpos : 1 ≤ Tables.revision _ row.scope :=
      revision_pos (wellformed_insert hb h hinsert) hpolicy
    rw [hscope, hsame] at hpos
    rcases hquiet row hrow with hzero | ⟨old, hold, hstatus, hprincipal, hscope'⟩
    · rw [hscope] at hzero
      omega
    · refine ⟨old, List.mem_filter.mpr ⟨hold, decide_eq_true ⟨hstatus, hscope'.trans hscope⟩⟩, ?_⟩
      exact ⟨hb.active row hrow, hstatus, hprincipal.symm, hscope'.symm⟩
  suffices hboth : Wellformed tables' ∧ scopeView scope tables' = scopeView scope tables from
    hboth.2
  refine invariant_of_insert
    (fun written => Wellformed written ∧ scopeView scope written = scopeView scope tables)
    ⟨h, rfl⟩ hinsert ?_ ?_ ?_ ?_
  · rintro row - written written' ⟨hwritten, hview⟩ hensure
    refine ⟨wellformed_ensurePrincipal hwritten (hb.principalId row) hensure, ?_⟩
    obtain ⟨principals, -, rfl⟩ := ensurePrincipal_eq_ok.mp hensure
    exact hview
  · rintro row - written written' ⟨hwritten, hview⟩ hensure
    refine ⟨wellformed_ensureBinding hwritten hensure, ?_⟩
    obtain ⟨bindings, -, rfl⟩ := ensureBinding_eq_ok.mp hensure
    exact hview
  · rintro wanted - written written' ⟨hwritten, hview⟩ hensure
    refine ⟨wellformed_ensurePolicy hwritten hensure, ?_⟩
    obtain ⟨-, policies, -, rfl⟩ := ensurePolicy_eq_ok.mp hensure
    exact hview
  · rintro row hrow written written' ⟨hwritten, hview⟩ hgrant
    refine ⟨wellformed_insertGrant hwritten (hb.resolves row) (hb.lasting row hrow) hgrant, ?_⟩
    by_cases hscope : row.scope = scope
    · -- The grant is there already.
      obtain ⟨old, hold, hclash⟩ := hfound row hrow hscope
      rw [← hview] at hold
      have hconflict : ∃ old ∈ written.grants, sameActive row old :=
        ⟨old, (List.mem_filter.mp hold).1, hclash⟩
      have hkept : resolved sameActive (b.updateGrant row) row written.grants = written.grants :=
        resolved_eq_self fun old hold => hsteady row hrow old (hwritten.roles old hold)
          (hwritten.lasting old hold)
      rw [insertGrant_of_conflict (hb.fits row hrow) hconflict, hkept] at hgrant
      exact Except.ok.inj hgrant ▸ hview
    · exact (scopeView_insertGrant (hb.resolves row) hgrant (Ne.symm hscope)).trans hview

/-! ### Every transaction -/

theorem expected_of_perform {call : Call} (h : Wellformed tables)
    (hperform : perform p tables call = .ok tables')
    (hexpects : Operation.expects call.operation = some (scope, expected)) :
    tables.revision scope = expected ∧ Raised scope tables tables' := by
  obtain ⟨now, operation⟩ := call
  cases operation with
  | createInvitation =>
      obtain ⟨rfl, rfl⟩ := Prod.mk.inj (Option.some.inj hexpects)
      obtain ⟨result, hresult, rfl⟩ := map_eq_ok.mp hperform
      exact raised_createInvitation h hresult
  | upsertGrant =>
      obtain ⟨rfl, rfl⟩ := Prod.mk.inj (Option.some.inj hexpects)
      obtain ⟨result, hresult, rfl⟩ := map_eq_ok.mp hperform
      exact raised_upsertGrant h hresult
  | revokeGrant =>
      obtain ⟨rfl, rfl⟩ := Prod.mk.inj (Option.some.inj hexpects)
      obtain ⟨result, hresult, rfl⟩ := map_eq_ok.mp hperform
      exact raised_revokeGrant h hresult
  | _ => cases hexpects

theorem raised_of_perform {call : Call} (h : Wellformed tables)
    (hperform : perform p tables call = .ok tables')
    (hgoverned : governed tables call.operation = some scope) : Raised scope tables tables' := by
  obtain ⟨now, operation⟩ := call
  cases operation with
  | acceptInvitation =>
      obtain ⟨result, hresult, rfl⟩ := map_eq_ok.mp hperform
      obtain ⟨invitation, hrow, hraised⟩ := raised_acceptInvitation h hresult
      simp only [governed, hrow, Option.map_some, Option.some.injEq] at hgoverned
      exact hgoverned ▸ hraised
  | _ =>
      simp only [governed] at hgoverned
      obtain ⟨⟨_, expected⟩, hpair, rfl⟩ := Option.map_eq_some_iff.mp hgoverned
      exact (expected_of_perform h hperform hpair).2

structure Advances (scope : Scope) (tables tables' : Tables) : Prop where
  revision : tables.revision scope ≤ tables'.revision scope
  view : tables'.revision scope = tables.revision scope →
    scopeView scope tables' = scopeView scope tables

theorem advances_of_raised (h : Raised other tables tables') : Advances scope tables tables' := by
  by_cases hsame : scope = other
  · subst hsame
    exact ⟨h.raised.le, fun hrevision => absurd hrevision h.raised.ne'⟩
  · exact ⟨(h.revisions scope hsame).ge, fun _ => h.views scope hsame⟩

theorem revision_next (h : Wellformed tables) (call : Call) :
    tables.revision scope ≤ (next p tables call).revision scope := by
  refine next_cases (fun tables' => tables.revision scope ≤ tables'.revision scope)
    (fun tables' hperform => ?_) (le_refl (tables.revision scope))
  cases hgoverned : governed tables call.operation with
  | some other => exact (advances_of_raised (raised_of_perform h hperform hgoverned)).revision
  | none =>
      obtain ⟨now, operation⟩ := call
      cases operation with
      | acceptInvitation =>
          obtain ⟨result, hresult, rfl⟩ := map_eq_ok.mp hperform
          obtain ⟨invitation, -, hraised⟩ := raised_acceptInvitation h hresult
          exact (advances_of_raised hraised).revision
      | importVerifiedGrant =>
          exact revision_insert (perform_importVerifiedGrant hperform).2
      | ensureLocalRecoveryOwner localUserId =>
          rw [perform_ensureLocalRecoveryOwner] at hperform
          exact revision_insert hperform
      | backfillWorkspaceOwners actorId workspaces =>
          rw [perform_backfillWorkspaceOwners] at hperform
          exact revision_insert hperform
      | _ => cases hgoverned

theorem view_next (h : Wellformed tables) {call : Call} (hquiet : Quiet p tables call)
    (hsame : (next p tables call).revision scope = tables.revision scope) :
    scopeView scope (next p tables call) = scopeView scope tables := by
  revert hsame
  refine next_cases (fun tables' => tables'.revision scope = tables.revision scope →
    scopeView scope tables' = scopeView scope tables) (fun tables' hperform => ?_) fun _ => rfl
  intro hsame
  cases hgoverned : governed tables call.operation with
  | some other =>
      exact (advances_of_raised (raised_of_perform h hperform hgoverned)).view hsame
  | none =>
      obtain ⟨now, operation⟩ := call
      cases operation with
      | acceptInvitation =>
          obtain ⟨result, hresult, rfl⟩ := map_eq_ok.mp hperform
          obtain ⟨invitation, -, hraised⟩ := raised_acceptInvitation h hresult
          exact (advances_of_raised hraised).view hsame
      | importVerifiedGrant identity verifiedEmail wanted roleKey actorId =>
          obtain ⟨hfits, hinsert⟩ := perform_importVerifiedGrant hperform
          refine scopeView_insert (coherent_imported hfits identity verifiedEmail actorId) h
            (fun row hrow => ?_) (fun _ _ _ _ _ _ => rfl) hinsert hsame
          rw [List.mem_singleton.mp hrow]
          exact hquiet
      | ensureLocalRecoveryOwner localUserId =>
          rw [perform_ensureLocalRecoveryOwner] at hperform
          refine scopeView_insert (coherent_recovery localUserId) h (fun row hrow => ?_)
            (fun row hrow old hfits hlasting hclash => ?_) hperform hsame
          · rw [List.mem_singleton.mp hrow]
            exact hquiet
          · rw [List.mem_singleton.mp hrow] at hclash ⊢
            have hrole : old.roleKey = .localCoreSuperAdmin :=
              hfits.mp (congrArg Scope.scopeType hclash.2.2.2.symm)
            cases old
            subst hrole hlasting
            rfl
      | backfillWorkspaceOwners actorId workspaces =>
          rw [perform_backfillWorkspaceOwners] at hperform
          refine scopeView_insert (coherent_backfill actorId workspaces) h (fun row hrow => ?_)
            (fun _ _ _ _ _ _ => rfl) hperform hsame
          obtain ⟨owner, howner, rfl⟩ := List.mem_map.mp hrow
          exact hquiet owner howner
      | _ => cases hgoverned

/-! ### Runs -/

def Succeeds (p : Platform) (before : List Call) (call : Call) : Prop :=
  ∃ tables, perform p (after p before) call = .ok tables

/-- Administrative calls and acceptances count the revision of their scope up, and an expected
revision serves one call. -/
structure Counted (p : Platform) (calls : List Call) : Prop where
  raised : ∀ before call rest scope, calls = before ++ call :: rest → Succeeds p before call →
    governed (after p before) call.operation = some scope →
    (after p before).revision scope < (after p (before ++ [call])).revision scope
  once : ∀ before call between call' rest scope expected,
    calls = before ++ call :: (between ++ call' :: rest) →
    Operation.expects call.operation = some (scope, expected) →
    Operation.expects call'.operation = some (scope, expected) → Succeeds p before call →
    ¬ Succeeds p (before ++ call :: between) call'

/-- A call that expects a revision and succeeds finds the scope as it was at every moment of
that revision. -/
def Fenced (p : Platform) (calls : List Call) : Prop :=
  ∀ early between call rest scope expected, calls = early ++ (between ++ call :: rest) →
    Operation.expects call.operation = some (scope, expected) →
    Succeeds p (early ++ between) call → (after p early).revision scope = expected →
    scopeView scope (after p (early ++ between)) = scopeView scope (after p early)

theorem revision_after (early late : List Call) :
    (after p early).revision scope ≤ (after p (early ++ late)).revision scope := by
  induction late using List.reverseRecOn with
  | nil => rw [List.append_nil]
  | append_singleton late call ih =>
      rw [← List.append_assoc, after_append_singleton]
      exact ih.trans (revision_next (wellformed_after (early ++ late)) call)

/-- After any calls the roles that are granted fit their scopes, are held by stored principals
and governed by a policy, no two active grants and no two policies are for the same, and the
revision of a scope never falls. -/
theorem tables_kept (early late : List Call) :
    Wellformed (after p (early ++ late)) ∧
      ∀ scope, (after p early).revision scope ≤ (after p (early ++ late)).revision scope :=
  ⟨wellformed_after (early ++ late), fun _ => revision_after early late⟩

theorem view_after (early late : List Call)
    (hquiet : Along (next p) (Quiet p) .empty (early ++ late))
    (hsame : (after p (early ++ late)).revision scope = (after p early).revision scope) :
    scopeView scope (after p (early ++ late)) = scopeView scope (after p early) := by
  induction late using List.reverseRecOn with
  | nil => rw [List.append_nil]
  | append_singleton late call ih =>
      rw [← List.append_assoc] at hquiet hsame ⊢
      obtain ⟨hearlier, hcall⟩ := (along_append_singleton (next p)).mp hquiet
      have hle : (after p early).revision scope ≤ (after p (early ++ late)).revision scope :=
        revision_after early late
      have hstep : (after p (early ++ late)).revision scope ≤
          (after p (early ++ late ++ [call])).revision scope := revision_after (early ++ late) [call]
      have hbetween : (after p (early ++ late)).revision scope = (after p early).revision scope := by
        omega
      rw [← ih hearlier hbetween]
      rw [after_append_singleton] at hsame ⊢
      exact view_next (wellformed_after (early ++ late)) hcall (hsame.trans hbetween.symm)

theorem counted (calls : List Call) : Counted p calls where
  raised before call _ scope _ hsucceeds hgoverned := by
    obtain ⟨tables', hperform⟩ := hsucceeds
    rw [after_append_singleton, next_of_perform hperform]
    exact (raised_of_perform (wellformed_after before) hperform hgoverned).raised
  once before call between call' _ scope expected _ hexpects hexpects' hsucceeds hsucceeds' := by
    obtain ⟨tables', hperform⟩ := hsucceeds
    obtain ⟨tables'', hperform'⟩ := hsucceeds'
    obtain ⟨hexpected, hraised⟩ :=
      expected_of_perform (wellformed_after before) hperform hexpects
    obtain ⟨hexpected', -⟩ := expected_of_perform (wellformed_after _) hperform' hexpects'
    have hsplit : before ++ call :: between = before ++ [call] ++ between := by simp
    have hlater : (after p (before ++ [call])).revision scope ≤
        (after p (before ++ [call] ++ between)).revision scope := revision_after _ between
    rw [hsplit] at hexpected'
    rw [after_append_singleton, next_of_perform hperform] at hlater
    have hhigher := hraised.raised
    omega

/-- The revisions count administrative calls and acceptances, and in a run whose bootstraps and
imports are quiet they fence the views. -/
theorem revisions_fence (calls : List Call) :
    Counted p calls ∧ (Along (next p) (Quiet p) .empty calls → Fenced p calls) := by
  refine ⟨counted calls, ?_⟩
  rintro hquiet early between call rest scope expected rfl hexpects ⟨tables', hperform⟩ hrevision
  have hexpected := (expected_of_perform (wellformed_after _) hperform hexpects).1
  rw [← List.append_assoc] at hquiet
  exact view_after early between (along_append.mp hquiet).1 (hexpected.trans hrevision.symm)

theorem repeated_recovery_fenced :
    Fenced ⟨id, id, id⟩
      [⟨1, .ensureLocalRecoveryOwner "u"⟩, ⟨2, .ensureLocalRecoveryOwner "u"⟩,
       ⟨3, .createInvitation "i" localCore "ada@core" .localCoreSuperAdmin "t" 9 "local-u" 1⟩] :=
  (revisions_fence _).2 ⟨.inl (by decide), .inr (by decide), trivial, trivial⟩

/-! ### A grant that no revision tells of -/

/-- Two local users are made administrators, and the grant of one is revoked under the
revision that the scope had before the other came. -/
def secondAdministrator : List Call :=
  [⟨1, .ensureLocalRecoveryOwner "u"⟩, ⟨2, .ensureLocalRecoveryOwner "v"⟩,
   ⟨3, .revokeGrant "local-u" localCore "local-u" 1⟩]

theorem bootstrap_not_fenced : ¬ Fenced ⟨id, id, id⟩ secondAdministrator := by
  intro h
  have hview := h [⟨1, .ensureLocalRecoveryOwner "u"⟩] [⟨2, .ensureLocalRecoveryOwner "v"⟩]
    ⟨3, .revokeGrant "local-u" localCore "local-u" 1⟩ [] localCore 1 rfl rfl ⟨_, rfl⟩
    (by decide)
  have hlength := congrArg (fun view => view.1.length) hview
  revert hlength
  decide

end MindscapeLocalCore.AccessControl.Revisions
