import MindscapeLocalCore.AccessControl.Runs
/-!
Whether a workspace keeps an owner and the local core an administrator, transaction by
transaction. The guards of grants that are changed and revoked are not made where an
invitation is accepted.
-/

namespace MindscapeLocalCore.AccessControl.LastOwner

open Bootstrap Repository Runs Schema Writes Library.Guarded Library.Table Library.Trace
open Library.UniqueInsert

/-- Someone has an active unexpired grant of the role on the scope. -/
def Held (now : Timestamp) (role : Role) (scope : Scope) (grants : List Grant) : Prop :=
  ∃ grant ∈ grants, grant.scope = scope ∧ grant.roleKey = role ∧ grant.status = .active ∧
    grant.Unexpired now

instance (now : Timestamp) (role : Role) (scope : Scope) (grants : List Grant) :
    Decidable (Held now role scope grants) := inferInstanceAs (Decidable (∃ grant ∈ grants, _))

/-- No workspace loses its last owner, and the local core not its last administrator. -/
structure KeepsAccess (now : Timestamp) (tables tables' : Tables) : Prop where
  owners : ∀ workspaceId, Held now .workspaceOwner (workspace workspaceId) tables.grants →
    Held now .workspaceOwner (workspace workspaceId) tables'.grants
  administrators : Held now .localCoreSuperAdmin localCore tables.grants →
    Held now .localCoreSuperAdmin localCore tables'.grants

def LosesLastOwner (p : Platform) (tables : Tables) (call : Call) : Prop :=
  match call.operation with
  | .acceptInvitation _ tokenHash identity verifiedEmail =>
      ∃ invitation binding, validateInvitation p call.now verifiedEmail
          (lookup Invitation.tokenHash tokenHash tables.invitations) = .ok invitation ∧
        activeBinding identity tables = some binding ∧
        invitation.scope.scopeType = .workspace ∧ invitation.roleKey ≠ .workspaceOwner ∧
        (∃ grant ∈ lockActiveGrant binding.principalId invitation.scope tables,
          grant.roleKey = .workspaceOwner ∧ grant.Unexpired call.now) ∧
        ¬ Another call.now .workspaceOwner invitation.scope binding.principalId tables.grants
  | _ => False

variable {p : Platform} {tables tables' : Tables} {now : Timestamp} {role : Role}
  {scope wanted : Scope} {principalId : String} {grant : Grant} {resolve : Grant → Grant}

theorem keepsAccess_of_eq (h : tables'.grants = tables.grants) : KeepsAccess now tables tables' := by
  constructor
  · intro _ hheld
    exact h ▸ hheld
  · intro hheld
    exact h ▸ hheld

theorem keepsAccess_trans {tables'' : Tables} (h : KeepsAccess now tables tables')
    (h' : KeepsAccess now tables' tables'') : KeepsAccess now tables tables'' where
  owners workspaceId hheld := h'.owners workspaceId (h.owners workspaceId hheld)
  administrators hheld := h'.administrators (h.administrators hheld)

theorem unexpired_of_lasting (h : grant.expiresAt = none) : grant.Unexpired now := by
  intro time htime
  rw [h] at htime
  cases htime

theorem held_insertGrant (h : Wellformed tables) (hresolve : Resolves grant.roleKey resolve)
    (hinsert : insertGrant resolve grant tables = .ok tables')
    (hkept : ∀ old ∈ tables.grants, sameActive grant old → old.scope = wanted →
      old.roleKey = role → (resolve old).roleKey = role ∨
        Another now role wanted grant.principalId tables.grants)
    (hheld : Held now role wanted tables.grants) : Held now role wanted tables'.grants := by
  obtain ⟨-, grants, rfl, ⟨-, rfl⟩ | ⟨-, -, rfl, -⟩⟩ := insertGrant_eq_ok hinsert
  · -- A grant of another principal, or on another scope, stays as it is.
    have hother : ∀ old ∈ tables.grants, old.scope = wanted → old.roleKey = role →
        old.status = .active → old.Unexpired now → ¬ sameActive grant old →
        Held now role wanted (resolved sameActive resolve grant tables.grants) :=
      fun old hold hscope hrole hstatus hunexpired hapart =>
        ⟨old, mem_resolved.mpr (.inr ⟨hold, hapart⟩), hscope, hrole, hstatus, hunexpired⟩
    obtain ⟨old, hold, hscope, hrole, hstatus, hunexpired⟩ := hheld
    by_cases hsame : sameActive grant old
    · rcases hkept old hold hsame hscope hrole with hrole' | hanother
      · refine ⟨resolve old, mem_resolved.mpr (.inl ⟨old, hold, hsame, rfl⟩), ?_, hrole', ?_, ?_⟩
        · rw [hresolve.scope, hscope]
        · rw [hresolve.status, hstatus]
        · exact unexpired_of_lasting (hresolve.expiresAt old (h.lasting old hold))
      · obtain ⟨another, hmem, hscope', hrole', hstatus', hne, hunexpired'⟩ := hanother
        exact hother another hmem hscope' hrole' hstatus' hunexpired' fun hclash =>
          hne hclash.2.2.1.symm
    · exact hother old hold hscope hrole hstatus hunexpired hsame
  · obtain ⟨old, hold, hheld⟩ := hheld
    exact ⟨old, List.mem_append_left _ hold, hheld⟩

theorem held_revoked
    (hkept : ∀ old ∈ tables.grants, old.Active principalId scope → old.scope = wanted →
      old.roleKey = role → Another now role wanted principalId tables.grants)
    (hheld : Held now role wanted tables.grants) :
    Held now role wanted (tables.grants.map fun grant =>
      if grant.Active principalId scope then revoked grant else grant) := by
  have hother : ∀ old ∈ tables.grants, old.scope = wanted → old.roleKey = role →
      old.status = .active → old.Unexpired now → ¬ old.Active principalId scope →
      Held now role wanted (tables.grants.map fun grant =>
        if grant.Active principalId scope then revoked grant else grant) := by
    intro old hold hscope hrole hstatus hunexpired hapart
    refine ⟨old, List.mem_map.mpr ⟨old, hold, if_neg hapart⟩, hscope, hrole, hstatus, hunexpired⟩
  obtain ⟨old, hold, hscope, hrole, hstatus, hunexpired⟩ := hheld
  by_cases hactive : old.Active principalId scope
  · obtain ⟨another, hmem, hscope', hrole', hstatus', hne, hunexpired'⟩ :=
      hkept old hold hactive hscope hrole
    exact hother another hmem hscope' hrole' hstatus' hunexpired' fun hclash => hne hclash.2.1
  · exact hother old hold hscope hrole hstatus hunexpired hactive

/-! ### Transactions that keep everyone's access -/

theorem lockScope_grants {expected revision : ℤ}
    (h : lockScope scope expected tables = .ok (revision, tables')) :
    tables'.grants = tables.grants := by
  rcases lockScope_eq_ok h with ⟨-, -, -, -, rfl⟩ | ⟨-, -, -, -, rfl⟩
  · rfl
  · rfl

theorem workspace_of_scopeType (h : scope.scopeType = .workspace) :
    scope = workspace scope.scopeId := by
  obtain ⟨scopeType, scopeId⟩ := scope
  obtain rfl : scopeType = .workspace := h
  rfl

theorem keepsAccess_upsertGrant {grantId actor : String} {expected revision : ℤ} {roleKey : Role}
    (h : Wellformed tables)
    (hupsert : upsertGrant now grantId principalId scope roleKey actor expected tables =
      .ok (revision, tables')) : KeepsAccess now tables tables' := by
  obtain ⟨locked, held, granted, hlock, hguard, hgranted, hrecord⟩ := upsertGrant_eq_ok hupsert
  have hlocked := (wellformed_lockScope h hlock).1
  have hfits := (insertGrant_eq_ok hgranted).1
  obtain ⟨-, rfl⟩ := Prod.mk.inj hrecord
  have hkept : ∀ {role wanted}, (∀ old ∈ locked.grants,
      sameActive (activeGrant grantId principalId scope roleKey actor) old → old.scope = wanted →
      old.roleKey = role → roleKey = role ∨
        Another now role wanted principalId locked.grants) →
      Held now role wanted tables.grants → Held now role wanted granted.grants := by
    intro role wanted hkept hheld
    rw [← lockScope_grants hlock] at hheld
    exact held_insertGrant hlocked resolves_regranted hgranted hkept hheld
  constructor
  · intro workspaceId
    refine hkept fun old hold hsame hscope hrole => ?_
    by_cases hlower : roleKey = .workspaceOwner
    · exact .inl hlower
    · obtain ⟨-, hstatus, hprincipal, hscope'⟩ := hsame
      have hwanted : scope = workspace workspaceId := hscope'.trans hscope
      have hactive := lockActiveGrant_of_mem hlocked hold
        ⟨hstatus, hprincipal.symm, hscope'.symm⟩
      have hanother := hguard (congrArg Scope.scopeType hwanted) ⟨old, hactive, hrole⟩ hlower
      rw [hwanted] at hanother
      exact .inr hanother
  · -- The local core has no other role.
    refine hkept fun old hold hsame hscope hrole => .inl ?_
    have hwanted : scope = localCore := hsame.2.2.2.trans hscope
    exact hfits.mp (congrArg Scope.scopeType hwanted)

theorem keepsAccess_revokeGrant {actor : String} {expected revision : ℤ} (h : Wellformed tables)
    (hrevoke : revokeGrant now principalId scope actor expected tables =
      .ok (revision, tables')) : KeepsAccess now tables tables' := by
  obtain ⟨locked, held, hlock, hguard, hrecord⟩ := revokeGrant_eq_ok hrevoke
  have hlocked := (wellformed_lockScope h hlock).1
  obtain ⟨-, rfl⟩ := Prod.mk.inj hrecord
  have hactive : ∀ old ∈ locked.grants, old.Active principalId scope →
      old ∈ lockActiveGrant principalId scope locked :=
    fun old hold hactive => lockActiveGrant_of_mem hlocked hold hactive
  constructor
  · intro workspaceId hheld
    rw [← lockScope_grants hlock] at hheld
    refine held_revoked (fun old hold hold' hscope hrole => ?_) hheld
    have hanother := (hguard old (hactive old hold hold')).1 hrole
    have hwanted : scope = workspace workspaceId := hold'.2.2.symm.trans hscope
    rw [hwanted] at hanother
    exact hanother
  · intro hheld
    rw [← lockScope_grants hlock] at hheld
    refine held_revoked (fun old hold hold' hscope hrole => ?_) hheld
    exact (hguard old (hactive old hold hold')).2 hrole

theorem keepsAccess_insert {b : Rows} (hb : b.Coherent) (h : Wellformed tables)
    (htop : ∀ row ∈ b.grants, (∀ old, (b.updateGrant row old).roleKey = old.roleKey) ∨
      row.scope = localCore ∧ ∀ old, (b.updateGrant row old).roleKey = .localCoreSuperAdmin)
    (hinsert : b.insert tables = .ok tables') : KeepsAccess now tables tables' := by
  suffices hboth : Wellformed tables' ∧ KeepsAccess now tables tables' from hboth.2
  refine invariant_of_insert (fun written => Wellformed written ∧ KeepsAccess now tables written)
    ⟨h, keepsAccess_of_eq rfl⟩ hinsert ?_ ?_ ?_ ?_
  · rintro row - written written' ⟨hwritten, hkept⟩ hensure
    refine ⟨wellformed_ensurePrincipal hwritten (hb.principalId row) hensure, ?_⟩
    obtain ⟨principals, -, rfl⟩ := ensurePrincipal_eq_ok.mp hensure
    exact keepsAccess_trans hkept (keepsAccess_of_eq rfl)
  · rintro row - written written' ⟨hwritten, hkept⟩ hensure
    refine ⟨wellformed_ensureBinding hwritten hensure, ?_⟩
    obtain ⟨bindings, -, rfl⟩ := ensureBinding_eq_ok.mp hensure
    exact keepsAccess_trans hkept (keepsAccess_of_eq rfl)
  · rintro scope - written written' ⟨hwritten, hkept⟩ hensure
    refine ⟨wellformed_ensurePolicy hwritten hensure, ?_⟩
    obtain ⟨-, policies, -, rfl⟩ := ensurePolicy_eq_ok.mp hensure
    exact keepsAccess_trans hkept (keepsAccess_of_eq rfl)
  · rintro row hrow written written' ⟨hwritten, hkept⟩ hgrant
    refine ⟨wellformed_insertGrant hwritten (hb.resolves row) (hb.lasting row hrow) hgrant, ?_⟩
    refine keepsAccess_trans hkept ⟨fun workspaceId => ?_, ?_⟩
    · refine held_insertGrant hwritten (hb.resolves row) hgrant
        fun old _ hsame hscope hrole => .inl ?_
      rcases htop row hrow with hrole' | ⟨hcore, -⟩
      · exact (hrole' old).trans hrole
      · rw [hsame.2.2.2.symm.trans hcore] at hscope
        cases hscope
    · refine held_insertGrant hwritten (hb.resolves row) hgrant
        fun old _ _ _ hrole => .inl ?_
      rcases htop row hrow with hrole' | ⟨-, hadministrator⟩
      · exact (hrole' old).trans hrole
      · exact hadministrator old

/-! ### Acceptances -/

theorem binding_of_bound {ids : AcceptanceIds} {identity : VerifiedIdentity}
    {verifiedEmail : String} {bound : Tables} (h : Wellformed tables)
    (hbound : Bound ids identity verifiedEmail tables principalId bound)
    (hmem : grant ∈ tables.grants) (hgrantee : grant.principalId = principalId) :
    ∃ binding, activeBinding identity tables = some binding ∧
      principalId = binding.principalId := by
  rw [Bound] at hbound
  split at hbound
  · rename_i binding hbinding
    exact ⟨binding, hbinding, hbound.1⟩
  · obtain ⟨rfl, hinsert⟩ := hbound
    obtain ⟨-, -, -, hnew, -⟩ := insertPrincipalBinding_eq_ok hinsert
    obtain ⟨principal, hprincipal, hid⟩ := h.grantees grant hmem
    exact absurd (hid.trans hgrantee) (hnew principal hprincipal)

theorem keepsAccess_acceptInvitation {ids : AcceptanceIds} {tokenHash verifiedEmail : String}
    {identity : VerifiedIdentity} {acceptance : Acceptance} (h : Wellformed tables)
    (haccept : acceptInvitation p now ids tokenHash identity verifiedEmail tables =
      .ok (acceptance, tables'))
    (hkeeps : ¬ LosesLastOwner p tables
      ⟨now, .acceptInvitation ids tokenHash identity verifiedEmail⟩) :
    KeepsAccess now tables tables' := by
  obtain ⟨invitation, hvalid, principalId, bound, hbound, granted, hgranted, revision, hconsume, -⟩ :=
    acceptInvitation_eq_ok.mp haccept
  obtain ⟨policy, auditEvents, -, rfl⟩ := consumeInvitation_eq_ok hconsume
  have hbound' := wellformed_bound h hbound
  have hgrants := (bound_grants hbound).1
  have hfits := (insertGrant_eq_ok hgranted).1
  have hkept : ∀ {role wanted}, (∀ old ∈ tables.grants, sameActive
        (activeGrant ids.grantId principalId invitation.scope invitation.roleKey principalId) old →
      old.scope = wanted → old.roleKey = role → invitation.roleKey = role ∨
        Another now role wanted principalId tables.grants) →
      Held now role wanted tables.grants → Held now role wanted granted.grants := by
    intro role wanted hkept hheld
    rw [← hgrants] at hkept hheld
    exact held_insertGrant hbound' resolves_regranted hgranted hkept hheld
  constructor
  · intro workspaceId
    refine hkept fun old hold hsame hscope hrole => ?_
    by_contra hlost
    obtain ⟨hlower, hlast⟩ := not_or.mp hlost
    obtain ⟨-, hstatus, hprincipal, hscope'⟩ := hsame
    have hwanted : invitation.scope = workspace workspaceId := hscope'.trans hscope
    obtain ⟨binding, hbinding, rfl⟩ := binding_of_bound h hbound hold hprincipal.symm
    have hactive := lockActiveGrant_of_mem h hold ⟨hstatus, hprincipal.symm, hscope'.symm⟩
    refine hkeeps ⟨invitation, binding, hvalid, hbinding, congrArg Scope.scopeType hwanted, hlower,
      ⟨old, hactive, hrole, unexpired_of_lasting (h.lasting old hold)⟩, ?_⟩
    rw [hwanted]
    exact hlast
  · refine hkept fun old hold hsame hscope hrole => .inl ?_
    have hwanted : invitation.scope = localCore := hsame.2.2.2.trans hscope
    exact hfits.mp (congrArg Scope.scopeType hwanted)

theorem exists_accepted {ids : AcceptanceIds} {tokenHash verifiedEmail : String}
    {identity : VerifiedIdentity} {invitation : Invitation} {binding : Binding} {old : Grant}
    (h : Wellformed tables)
    (hvalid : validateInvitation p now verifiedEmail
      (lookup Invitation.tokenHash tokenHash tables.invitations) = .ok invitation)
    (hbinding : activeBinding identity tables = some binding) (hold : old ∈ tables.grants)
    (hactive : old.Active binding.principalId invitation.scope) :
    ∃ tables', perform p tables ⟨now, .acceptInvitation ids tokenHash identity verifiedEmail⟩ =
        .ok tables' ∧
      tables'.grants = resolved sameActive (regranted invitation.roleKey)
        (activeGrant ids.grantId binding.principalId invitation.scope invitation.roleKey
          binding.principalId) tables.grants := by
  obtain ⟨hrow, hpending, -, -⟩ := validateInvitation_eq_ok.mp hvalid
  have hinvited : invitation ∈ tables.invitations := mem_of_lookup hrow
  obtain ⟨hfits, hpolicy⟩ := h.invited invitation hinvited
  have hbound : Bound ids identity verifiedEmail tables binding.principalId tables := by
    rw [Bound, hbinding]
    exact ⟨rfl, rfl⟩
  obtain ⟨granted, hgranted, hgrants, hinvitations, hpolicies⟩ : ∃ granted,
      insertGrant (regranted invitation.roleKey) (activeGrant ids.grantId binding.principalId
        invitation.scope invitation.roleKey binding.principalId) tables = .ok granted ∧
      granted.grants = resolved sameActive (regranted invitation.roleKey)
        (activeGrant ids.grantId binding.principalId invitation.scope invitation.roleKey
          binding.principalId) tables.grants ∧
      granted.invitations = tables.invitations ∧ granted.policies = tables.policies :=
    ⟨_, insertGrant_of_conflict hfits
      ⟨old, hold, rfl, hactive.1, hactive.2.1.symm, hactive.2.2.symm⟩, rfl, rfl, rfl⟩
  obtain ⟨revision, tables', hconsume⟩ := consumeInvitation_isOk (hinvitations ▸ hinvited)
    hpending (hpolicies ▸ hpolicy)
  refine ⟨tables', map_eq_ok.mpr ⟨_, acceptInvitation_eq_ok.mpr ⟨invitation, hvalid, _, tables,
    hbound, granted, hgranted, revision, hconsume, rfl⟩, rfl⟩, ?_⟩
  obtain ⟨policy, auditEvents, -, rfl⟩ := consumeInvitation_eq_ok hconsume
  exact hgrants

theorem not_keepsAccess {call : Call} (h : Wellformed tables)
    (hloses : LosesLastOwner p tables call) :
    ¬ KeepsAccess call.now tables (next p tables call) := by
  obtain ⟨now, operation⟩ := call
  cases operation with
  | acceptInvitation ids tokenHash identity verifiedEmail =>
      obtain ⟨invitation, binding, hvalid, hbinding, htype, hlower, ⟨last, hlast, howner,
        hunexpired⟩, halone⟩ := hloses
      obtain ⟨hmem, hlast'⟩ := active_of_lockActiveGrant hlast
      obtain ⟨tables', hperform, hgrants⟩ := exists_accepted h hvalid hbinding hmem hlast'
      rw [next_of_perform hperform]
      intro hkeeps
      have hheld := hkeeps.owners invitation.scope.scopeId
      rw [← workspace_of_scopeType htype, hgrants] at hheld
      obtain ⟨owner, howner', hscope, hrole, hstatus, hunexpired'⟩ :=
        hheld ⟨last, hmem, hlast'.2.2, howner, hlast'.1, hunexpired⟩
      rcases mem_resolved.mp howner' with ⟨old, -, -, rfl⟩ | ⟨hold, hapart⟩
      · exact hlower hrole
      · refine halone ⟨owner, hold, hscope, hrole, hstatus, fun hprincipal => hapart ?_,
          hunexpired'⟩
        exact ⟨rfl, hstatus, hprincipal.symm, hscope.symm⟩
  | _ => exact hloses.elim

theorem keepsAccess_next (h : Wellformed tables) (call : Call) :
    KeepsAccess call.now tables (next p tables call) ↔ ¬ LosesLastOwner p tables call := by
  constructor
  · exact fun hkeeps hloses => not_keepsAccess h hloses hkeeps
  · intro hkeeps
    refine next_cases (KeepsAccess call.now tables) (fun tables' hperform => ?_)
      (keepsAccess_of_eq rfl)
    obtain ⟨now, operation⟩ := call
    cases operation with
    | createInvitation =>
        obtain ⟨result, hresult, rfl⟩ := map_eq_ok.mp hperform
        obtain ⟨locked, held, invitation, hlock, -, -, -, -, hrecord⟩ :=
          createInvitation_eq_ok hresult
        have hgrants : result.2.grants = locked.grants :=
          congrArg (fun recorded => recorded.2.grants) hrecord
        exact keepsAccess_of_eq (hgrants.trans (lockScope_grants hlock))
    | acceptInvitation =>
        obtain ⟨result, hresult, rfl⟩ := map_eq_ok.mp hperform
        exact keepsAccess_acceptInvitation h hresult hkeeps
    | upsertGrant =>
        obtain ⟨result, hresult, rfl⟩ := map_eq_ok.mp hperform
        exact keepsAccess_upsertGrant h hresult
    | revokeGrant =>
        obtain ⟨result, hresult, rfl⟩ := map_eq_ok.mp hperform
        exact keepsAccess_revokeGrant h hresult
    | importVerifiedGrant identity verifiedEmail scope roleKey actorId =>
        obtain ⟨hfits, hinsert⟩ := perform_importVerifiedGrant hperform
        exact keepsAccess_insert (coherent_imported hfits identity verifiedEmail actorId) h
          (fun _ _ => .inl fun _ => rfl) hinsert
    | ensureLocalRecoveryOwner localUserId =>
        rw [perform_ensureLocalRecoveryOwner] at hperform
        refine keepsAccess_insert (coherent_recovery localUserId) h (fun row hrow => .inr ?_)
          hperform
        rw [List.mem_singleton.mp hrow]
        exact ⟨rfl, fun _ => rfl⟩
    | backfillWorkspaceOwners actorId workspaces =>
        rw [perform_backfillWorkspaceOwners] at hperform
        exact keepsAccess_insert (coherent_backfill actorId workspaces) h
          (fun _ _ => .inl fun _ => rfl) hperform

/-- In a run every transaction keeps the last owners and the last administrator exactly where
none is an acceptance by a last owner of an invitation to a lower role. -/
theorem keepsAccess_throughout (calls : List Call) :
    (∀ before call rest, calls = before ++ call :: rest →
      KeepsAccess call.now (after p before) (after p (before ++ [call]))) ↔
      Along (next p) (fun tables call => ¬ LosesLastOwner p tables call) .empty calls := by
  rw [along_iff]
  refine forall_congr' fun before => forall_congr' fun call => forall_congr' fun rest =>
    imp_congr_right fun _ => ?_
  rw [after_append_singleton]
  exact keepsAccess_next (wellformed_after before) call

/-! ### An owner who accepts a lower role -/

def ada : VerifiedIdentity := ⟨"oidc", "issuer", "ada"⟩

def plain : Platform := ⟨id, id, id⟩

def ownerInvitedLower : List Call :=
  [⟨1, .createInvitation "i1" (workspace "w") "ada@core" .workspaceOwner "t1" 9 "root" 0⟩,
   ⟨2, .acceptInvitation ⟨"p", "b", "g1"⟩ "t1" ada "ada@core"⟩,
   ⟨3, .createInvitation "i2" (workspace "w") "ada@core" .workspaceViewer "t2" 9 "p" 3⟩]

theorem owner_accepts_lower_role :
    ¬ KeepsAccess 4 (after plain ownerInvitedLower)
      (after plain
        (ownerInvitedLower ++ [⟨4, .acceptInvitation ⟨"q", "c", "g2"⟩ "t2" ada "ada@core"⟩])) := by
  intro h
  have hheld := h.owners "w"
  revert hheld
  decide

end MindscapeLocalCore.AccessControl.LastOwner
