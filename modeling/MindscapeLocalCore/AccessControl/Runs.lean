import MindscapeLocalCore.AccessControl.Bootstrap
import MindscapeLocalCore.Library.Trace
/-!
Runs of access-control transactions from empty tables.
-/

namespace MindscapeLocalCore.AccessControl.Runs

open Bootstrap Repository Schema Writes Library.Guarded Library.Table Library.Trace
open Library.UniqueInsert

inductive Operation
  | createInvitation (invitationId : String) (scope : Scope) (email : String) (roleKey : Role)
      (tokenHash : String) (expiresAt : Timestamp) (actorPrincipalId : String)
      (expectedRevision : ℤ)
  | acceptInvitation (ids : AcceptanceIds) (tokenHash : String) (identity : VerifiedIdentity)
      (verifiedEmail : String)
  | upsertGrant (grantId principalId : String) (scope : Scope) (roleKey : Role)
      (actorPrincipalId : String) (expectedRevision : ℤ)
  | revokeGrant (principalId : String) (scope : Scope) (actorPrincipalId : String)
      (expectedRevision : ℤ)
  | importVerifiedGrant (identity : VerifiedIdentity) (verifiedEmail : Option String)
      (scope : Scope) (roleKey : Role) (actorId : String)
  | ensureLocalRecoveryOwner (localUserId : String)
  | backfillWorkspaceOwners (actorId : String) (workspaces : List Workspace)

structure Call where
  now : Timestamp
  operation : Operation

variable (p : Platform)

def perform (tables : Tables) (call : Call) : Except AccessError Tables :=
  match call.operation with
  | .createInvitation invitationId scope email roleKey tokenHash expiresAt actor expected =>
      (createInvitation invitationId scope email roleKey tokenHash expiresAt actor expected
        tables).map Prod.snd
  | .acceptInvitation ids tokenHash identity verifiedEmail =>
      (acceptInvitation p call.now ids tokenHash identity verifiedEmail tables).map Prod.snd
  | .upsertGrant grantId principalId scope roleKey actor expected =>
      (upsertGrant call.now grantId principalId scope roleKey actor expected tables).map Prod.snd
  | .revokeGrant principalId scope actor expected =>
      (revokeGrant call.now principalId scope actor expected tables).map Prod.snd
  | .importVerifiedGrant identity verifiedEmail scope roleKey actorId =>
      (importGrant p identity verifiedEmail scope roleKey actorId tables).map Prod.snd
  | .ensureLocalRecoveryOwner localUserId =>
      (ensureLocalRecoveryOwner localUserId tables).map Prod.snd
  | .backfillWorkspaceOwners actorId workspaces =>
      (backfillWorkspaceOwners p actorId workspaces tables).map Prod.snd

def next (tables : Tables) (call : Call) : Tables :=
  match perform p tables call with
  | .ok tables => tables
  | .error _ => tables

def after (calls : List Call) : Tables := stateAfter (next p) .empty calls

variable {p} {tables tables' : Tables} {now : Timestamp} {scope : Scope} {roleKey : Role}
  {principalId actor : String} {expected revision : ℤ}

/-! ### What a transaction that succeeds has done -/

theorem createInvitation_eq_ok {invitationId email tokenHash : String} {expiresAt : Timestamp}
    (h : createInvitation invitationId scope email roleKey tokenHash expiresAt actor expected
      tables = .ok (revision, tables')) :
    ∃ locked held invitation, lockScope scope expected tables = .ok (held, locked) ∧
      roleKey.Fits scope.scopeType ∧ invitation.roleKey = roleKey ∧ invitation.scope = scope ∧
      Absent sameInvitation invitation locked.invitations ∧
      (revision, tables') = recordMutation held scope actor "invitation.created" none
        [("invitation_id", invitationId)]
        { locked with invitations := locked.invitations ++ [invitation] } := by
  rw [createInvitation] at h
  simp only [bind_eq_ok, require_eq_ok, exists_unit, stored_eq_ok, insertRow_eq_some,
    Prod.exists] at h
  obtain ⟨held, locked, hlock, hfits, _, ⟨hnew, rfl⟩, hsame⟩ := h
  exact ⟨locked, held, _, hlock, hfits, rfl, rfl, hnew, (Except.ok.inj hsame).symm⟩

theorem validateInvitation_eq_ok {verifiedEmail : String} {row : Option Invitation}
    {invitation : Invitation} :
    validateInvitation p now verifiedEmail row = .ok invitation ↔
      row = some invitation ∧ invitation.status = .pending ∧ now < invitation.expiresAt ∧
        p.lower invitation.email = p.lower verifiedEmail := by
  cases row with
  | none => simp [validateInvitation]
  | some row =>
      simp only [validateInvitation, bind_eq_ok, require_eq_ok, exists_unit, Except.ok.injEq,
        Option.some.injEq]
      constructor
      · rintro ⟨hpending, hunexpired, hemail, rfl⟩
        exact ⟨rfl, hpending, hunexpired, hemail⟩
      · rintro ⟨rfl, hpending, hunexpired, hemail⟩
        exact ⟨hpending, hunexpired, hemail, rfl⟩

/-- The principal of an acceptance, and the tables with its binding. -/
def Bound (ids : AcceptanceIds) (identity : VerifiedIdentity) (verifiedEmail : String)
    (tables : Tables) (principalId : String) (bound : Tables) : Prop :=
  match activeBinding identity tables with
  | some binding => principalId = binding.principalId ∧ bound = tables
  | none => principalId = ids.principalId ∧
      insertPrincipalBinding ids.principalId ids.bindingId identity verifiedEmail tables =
        .ok bound

theorem acceptInvitation_eq_ok {ids : AcceptanceIds} {tokenHash verifiedEmail : String}
    {identity : VerifiedIdentity} {acceptance : Acceptance} :
    acceptInvitation p now ids tokenHash identity verifiedEmail tables =
        .ok (acceptance, tables') ↔
      ∃ invitation, validateInvitation p now verifiedEmail
          (lookup Invitation.tokenHash tokenHash tables.invitations) = .ok invitation ∧
        ∃ principalId bound, Bound ids identity verifiedEmail tables principalId bound ∧
          ∃ granted, insertGrant (regranted invitation.roleKey)
              (activeGrant ids.grantId principalId invitation.scope invitation.roleKey
                principalId) bound = .ok granted ∧
            ∃ revision, consumeInvitation invitation.id principalId invitation.scope granted =
                .ok (revision, tables') ∧
              acceptance = ⟨principalId, invitation.scope, invitation.roleKey, revision⟩ := by
  rw [acceptInvitation]
  simp only [bind_eq_ok, Bound]
  refine exists_congr fun invitation => and_congr_right fun _ => ?_
  cases activeBinding identity tables with
  | some binding =>
      simp only [ok_bind, bind_eq_ok, Prod.exists, Except.ok.injEq, Prod.mk.injEq]
      constructor
      · rintro ⟨granted, hgranted, revision, tables', hconsume, rfl, rfl⟩
        exact ⟨_, _, ⟨rfl, rfl⟩, granted, hgranted, revision, hconsume, rfl⟩
      · rintro ⟨_, _, ⟨rfl, rfl⟩, granted, hgranted, revision, hconsume, rfl⟩
        exact ⟨granted, hgranted, revision, _, hconsume, rfl, rfl⟩
  | none =>
      simp only [ok_bind, bind_eq_ok, Prod.exists, Except.ok.injEq, Prod.mk.injEq]
      constructor
      · rintro ⟨bound, hbound, granted, hgranted, revision, tables', hconsume, rfl, rfl⟩
        exact ⟨_, bound, ⟨rfl, hbound⟩, granted, hgranted, revision, hconsume, rfl⟩
      · rintro ⟨_, bound, ⟨rfl, hbound⟩, granted, hgranted, revision, hconsume, rfl⟩
        exact ⟨bound, hbound, granted, hgranted, revision, _, hconsume, rfl, rfl⟩

theorem upsertGrant_eq_ok {grantId : String}
    (h : upsertGrant now grantId principalId scope roleKey actor expected tables =
      .ok (revision, tables')) :
    ∃ locked held granted, lockScope scope expected tables = .ok (held, locked) ∧
      (scope.scopeType = .workspace →
        (∃ grant ∈ lockActiveGrant principalId scope locked, grant.roleKey = .workspaceOwner) →
        roleKey ≠ .workspaceOwner →
        Another now .workspaceOwner (workspace scope.scopeId) principalId locked.grants) ∧
      insertGrant (regranted roleKey) (activeGrant grantId principalId scope roleKey actor)
        locked = .ok granted ∧
      (revision, tables') = recordMutation held scope actor "grant.changed" (some principalId) []
        granted := by
  rw [upsertGrant] at h
  simp only [bind_eq_ok, Prod.exists] at h
  obtain ⟨held, locked, hlock, h⟩ := h
  rw [requireAnotherOwner, ite_require_eq_ok, bind_eq_ok] at h
  obtain ⟨hguard, granted, hgranted, hsame⟩ := h
  refine ⟨locked, held, granted, hlock, ?_, hgranted, (Except.ok.inj hsame).symm⟩
  rintro htype ⟨grant, hgrant, howner⟩ hlower
  refine hguard ⟨htype, ?_, hlower⟩
  rw [Option.mem_def.mp hgrant]
  simp [howner]

theorem revokeGrant_eq_ok
    (h : revokeGrant now principalId scope actor expected tables = .ok (revision, tables')) :
    ∃ locked held, lockScope scope expected tables = .ok (held, locked) ∧
      (∀ grant ∈ lockActiveGrant principalId scope locked,
        (grant.roleKey = .workspaceOwner →
          Another now .workspaceOwner (workspace scope.scopeId) principalId locked.grants) ∧
        (grant.roleKey = .localCoreSuperAdmin →
          Another now .localCoreSuperAdmin localCore principalId locked.grants)) ∧
      (revision, tables') = recordMutation held scope actor "grant.revoked" (some principalId) []
        { locked with
          grants := locked.grants.map fun grant =>
            if grant.Active principalId scope then revoked grant else grant } := by
  rw [revokeGrant] at h
  simp only [bind_eq_ok, Prod.exists] at h
  obtain ⟨held, locked, hlock, h⟩ := h
  simp only [requireAnotherOwner, requireAnotherLocalCoreSuperAdmin, ite_require_eq_ok] at h
  obtain ⟨howner, hadministrator, hsame⟩ := h
  refine ⟨locked, held, hlock, fun grant hgrant => ?_, (Except.ok.inj hsame).symm⟩
  simp only [Option.mem_def.mp hgrant, Option.any_some, decide_eq_true_eq] at howner hadministrator
  exact ⟨howner, hadministrator⟩

/-! ### Every transaction -/

theorem wellformed_bound {ids : AcceptanceIds} {identity : VerifiedIdentity}
    {verifiedEmail : String} {bound : Tables} (h : Wellformed tables)
    (hbound : Bound ids identity verifiedEmail tables principalId bound) : Wellformed bound := by
  rw [Bound] at hbound
  split at hbound
  · obtain ⟨-, rfl⟩ := hbound
    exact h
  · obtain ⟨-, hinsert⟩ := hbound
    obtain ⟨principals, bindings, rfl, -, rfl⟩ := insertPrincipalBinding_eq_ok hinsert
    exact wellformed_identities h fun principal hmem =>
      ⟨principal, List.mem_append_left _ hmem, rfl⟩

theorem bound_grants {ids : AcceptanceIds} {identity : VerifiedIdentity} {verifiedEmail : String}
    {bound : Tables} (h : Bound ids identity verifiedEmail tables principalId bound) :
    bound.grants = tables.grants ∧ bound.invitations = tables.invitations ∧
      bound.policies = tables.policies := by
  rw [Bound] at h
  split at h
  · obtain ⟨-, rfl⟩ := h
    exact ⟨rfl, rfl, rfl⟩
  · obtain ⟨-, hinsert⟩ := h
    obtain ⟨principals, bindings, rfl, -, -⟩ := insertPrincipalBinding_eq_ok hinsert
    exact ⟨rfl, rfl, rfl⟩

theorem wellformed_recorded {locked written : Tables} {held : ℤ} {action : String}
    {target : Option String} {metadata : List (String × String)} (h : Wellformed tables)
    (hlock : lockScope scope expected tables = .ok (held, locked)) (hwritten : Wellformed written)
    (hrecord : (revision, tables') =
      recordMutation held scope actor action target metadata written) :
    Wellformed tables' := by
  obtain ⟨hlocked, policy, hpolicy, -, rfl⟩ := wellformed_lockScope h hlock
  have hrevision := hlocked.revisions policy hpolicy
  have hsame : tables' =
      (recordMutation policy.revision scope actor action target metadata written).2 :=
    congrArg Prod.snd hrecord
  rw [hsame]
  exact wellformed_recordMutation hwritten (Int.le_trans (by decide) hrevision)

theorem perform_importVerifiedGrant {identity : VerifiedIdentity} {verifiedEmail : Option String}
    (h : perform p tables ⟨now, .importVerifiedGrant identity verifiedEmail scope roleKey actor⟩ =
      .ok tables') :
    roleKey.Fits scope.scopeType ∧
      (imported p identity verifiedEmail scope roleKey actor).insert tables = .ok tables' := by
  obtain ⟨result, hresult, rfl⟩ := map_eq_ok.mp h
  rw [importGrant_eq] at hresult
  simp only [bind_eq_ok, require_eq_ok, exists_unit, map_eq_ok] at hresult
  obtain ⟨hfits, tables', hinsert, rfl⟩ := hresult
  exact ⟨hfits, hinsert⟩

theorem perform_ensureLocalRecoveryOwner {localUserId : String} :
    perform p tables ⟨now, .ensureLocalRecoveryOwner localUserId⟩ =
      (recovery localUserId).insert tables := by
  simp only [perform]
  rw [ensureLocalRecoveryOwner_eq]
  cases (recovery localUserId).insert tables <;> rfl

theorem perform_backfillWorkspaceOwners {workspaces : List Workspace} :
    perform p tables ⟨now, .backfillWorkspaceOwners actor workspaces⟩ =
      (backfill p actor workspaces).insert tables := by
  simp only [perform]
  rw [backfillWorkspaceOwners_eq]
  cases (backfill p actor workspaces).insert tables <;> rfl

theorem wellformed_perform (h : Wellformed tables) {call : Call}
    (hperform : perform p tables call = .ok tables') : Wellformed tables' := by
  obtain ⟨now, operation⟩ := call
  cases operation with
  | createInvitation =>
      obtain ⟨result, hresult, rfl⟩ := map_eq_ok.mp hperform
      obtain ⟨locked, held, invitation, hlock, hfits, hrole, hscope, hnew, hrecord⟩ :=
        createInvitation_eq_ok hresult
      obtain ⟨hlocked, policy, hpolicy, hsame, -⟩ := wellformed_lockScope h hlock
      refine wellformed_recorded h hlock (wellformed_invitation hlocked ?_ ?_ hnew) hrecord
      · rw [hrole, hscope]
        exact hfits
      · exact ⟨policy, hpolicy, hsame.trans hscope.symm⟩
  | acceptInvitation =>
      obtain ⟨result, hresult, rfl⟩ := map_eq_ok.mp hperform
      obtain ⟨invitation, -, principalId, bound, hbound, granted, hgranted, revision, hconsume, -⟩ :=
        acceptInvitation_eq_ok.mp hresult
      have hgranted' := wellformed_insertGrant (wellformed_bound h hbound) resolves_regranted rfl
        hgranted
      exact wellformed_consumeInvitation hgranted' hconsume
  | upsertGrant =>
      obtain ⟨result, hresult, rfl⟩ := map_eq_ok.mp hperform
      obtain ⟨locked, held, granted, hlock, -, hgranted, hrecord⟩ := upsertGrant_eq_ok hresult
      have hlocked := (wellformed_lockScope h hlock).1
      exact wellformed_recorded h hlock
        (wellformed_insertGrant hlocked resolves_regranted rfl hgranted) hrecord
  | revokeGrant =>
      obtain ⟨result, hresult, rfl⟩ := map_eq_ok.mp hperform
      obtain ⟨locked, held, hlock, -, hrecord⟩ := revokeGrant_eq_ok hresult
      have hlocked := (wellformed_lockScope h hlock).1
      exact wellformed_recorded h hlock (wellformed_revoked hlocked) hrecord
  | importVerifiedGrant identity verifiedEmail scope roleKey actorId =>
      obtain ⟨hfits, hinsert⟩ := perform_importVerifiedGrant hperform
      exact wellformed_insert (coherent_imported hfits identity verifiedEmail actorId) h hinsert
  | ensureLocalRecoveryOwner localUserId =>
      rw [perform_ensureLocalRecoveryOwner] at hperform
      exact wellformed_insert (coherent_recovery localUserId) h hperform
  | backfillWorkspaceOwners actorId workspaces =>
      rw [perform_backfillWorkspaceOwners] at hperform
      exact wellformed_insert (coherent_backfill actorId workspaces) h hperform

theorem next_of_perform {call : Call} (h : perform p tables call = .ok tables') :
    next p tables call = tables' := by
  rw [next, h]

theorem next_cases {call : Call} (holds : Tables → Prop)
    (hok : ∀ tables', perform p tables call = .ok tables' → holds tables')
    (herror : holds tables) : holds (next p tables call) := by
  rw [next]
  split
  · rename_i tables' hperform
    exact hok tables' hperform
  · exact herror

theorem wellformed_next (h : Wellformed tables) (call : Call) : Wellformed (next p tables call) :=
  next_cases Wellformed (fun _ hperform => wellformed_perform h hperform) h

theorem after_append_singleton (calls : List Call) (call : Call) :
    after p (calls ++ [call]) = next p (after p calls) call :=
  stateAfter_append_singleton ..

theorem wellformed_stateAfter (h : Wellformed tables) (calls : List Call) :
    Wellformed (stateAfter (next p) tables calls) := by
  induction calls generalizing tables with
  | nil => exact h
  | cons call calls ih => exact ih (wellformed_next h call)

theorem wellformed_after (calls : List Call) : Wellformed (after p calls) :=
  wellformed_stateAfter wellformed_empty calls

end MindscapeLocalCore.AccessControl.Runs
