import MindscapeLocalCore.AccessControl.Repository
/-!
What the constraints of the tables and the writes to them keep, write by write.
-/

namespace MindscapeLocalCore.AccessControl.Writes

open Repository Schema Library.Guarded Library.Table Library.UniqueInsert

structure Wellformed (tables : Tables) : Prop where
  active : Apart sameActive tables.grants
  roles : ∀ grant ∈ tables.grants, grant.roleKey.Fits grant.scope.scopeType
  lasting : ∀ grant ∈ tables.grants, grant.expiresAt = none
  grantees : ∀ grant ∈ tables.grants,
    ∃ principal ∈ tables.principals, principal.id = grant.principalId
  governed : ∀ grant ∈ tables.grants, ∃ policy ∈ tables.policies, policy.scope = grant.scope
  invited : ∀ invitation ∈ tables.invitations,
    invitation.roleKey.Fits invitation.scope.scopeType ∧
      ∃ policy ∈ tables.policies, policy.scope = invitation.scope
  invitationKeys : Apart sameInvitation tables.invitations
  policies : (tables.policies.map Policy.scope).Nodup
  revisions : ∀ policy ∈ tables.policies, 1 ≤ policy.revision

variable {tables tables' : Tables} {scope : Scope} {expected revision : ℤ}
  {principalId : String} {grant : Grant} {resolve : Grant → Grant}

theorem wellformed_empty : Wellformed .empty where
  active := List.Pairwise.nil
  roles _ h := absurd h List.not_mem_nil
  lasting _ h := absurd h List.not_mem_nil
  grantees _ h := absurd h List.not_mem_nil
  governed _ h := absurd h List.not_mem_nil
  invited _ h := absurd h List.not_mem_nil
  invitationKeys := List.Pairwise.nil
  policies := List.nodup_nil
  revisions _ h := absurd h List.not_mem_nil

/-! ### Scopes -/

/-- Locking a scope leaves it with a policy of the revision that is returned; nothing else
changes, and the policy only where there was none. -/
theorem lockScope_eq_ok (h : lockScope scope expected tables = .ok (revision, tables')) :
    (∃ policy, lookup Policy.scope scope tables.policies = some policy ∧
        policy.revision = expected ∧ revision = expected ∧ tables' = tables) ∨
      lookup Policy.scope scope tables.policies = none ∧ expected = 0 ∧ revision = 1 ∧
        scope.Valid ∧ tables' = { tables with policies := tables.policies ++ [⟨scope, 1⟩] } := by
  rw [lockScope] at h
  split at h
  · rename_i hnone
    simp only [bind_eq_ok, require_eq_ok, exists_unit] at h
    obtain ⟨hexpected, hvalid, hsame⟩ := h
    obtain ⟨rfl, rfl⟩ := Prod.mk.inj (Except.ok.inj hsame)
    exact .inr ⟨hnone, hexpected, rfl, hvalid, rfl⟩
  · rename_i policy hpolicy
    simp only [bind_eq_ok, require_eq_ok, exists_unit] at h
    obtain ⟨hexpected, hsame⟩ := h
    obtain ⟨rfl, rfl⟩ := Prod.mk.inj (Except.ok.inj hsame)
    exact .inl ⟨policy, hpolicy, hexpected, hexpected, rfl⟩

theorem nodup_policies_append (h : (tables.policies.map Policy.scope).Nodup)
    (hnone : lookup Policy.scope scope tables.policies = none) (revision : ℤ) :
    ((tables.policies ++ [(⟨scope, revision⟩ : Policy)]).map Policy.scope).Nodup := by
  rw [List.map_append, List.nodup_append]
  refine ⟨h, List.nodup_singleton _, ?_⟩
  intro other hother new hnew hsame
  obtain rfl : new = scope := List.mem_singleton.mp hnew
  exact lookup_eq_none_iff.mp hnone (hsame ▸ hother)

theorem wellformed_policy (h : Wellformed tables)
    (hnone : lookup Policy.scope scope tables.policies = none) :
    Wellformed { tables with policies := tables.policies ++ [⟨scope, 1⟩] } where
  active := h.active
  roles := h.roles
  lasting := h.lasting
  grantees := h.grantees
  governed grant hmem := by
    obtain ⟨policy, hpolicy, hscope⟩ := h.governed grant hmem
    exact ⟨policy, List.mem_append_left _ hpolicy, hscope⟩
  invited invitation hmem := by
    obtain ⟨hfits, policy, hpolicy, hscope⟩ := h.invited invitation hmem
    exact ⟨hfits, policy, List.mem_append_left _ hpolicy, hscope⟩
  invitationKeys := h.invitationKeys
  policies := nodup_policies_append h.policies hnone 1
  revisions policy hmem := by
    rcases List.mem_append.mp hmem with hold | hnew
    · exact h.revisions policy hold
    · rw [List.mem_singleton.mp hnew]

theorem wellformed_lockScope (h : Wellformed tables)
    (hlock : lockScope scope expected tables = .ok (revision, tables')) :
    Wellformed tables' ∧ ∃ policy ∈ tables'.policies,
      policy.scope = scope ∧ policy.revision = revision := by
  rcases lockScope_eq_ok hlock with ⟨policy, hpolicy, hrevision, rfl, rfl⟩ | ⟨hnone, -, rfl, -, rfl⟩
  · exact ⟨h, policy, mem_of_lookup hpolicy, key_of_lookup hpolicy, hrevision⟩
  · exact ⟨wellformed_policy h hnone, _, List.mem_append_right _ (List.mem_singleton_self _),
      rfl, rfl⟩

theorem exists_policy_amend {f : Policy → Policy} {wanted : Scope}
    (hscope : ∀ policy, (f policy).scope = policy.scope)
    (h : ∃ policy ∈ tables.policies, policy.scope = wanted) :
    ∃ policy ∈ amend Policy.scope scope f tables.policies, policy.scope = wanted := by
  obtain ⟨policy, hmem, hsame⟩ := h
  refine ⟨_, List.mem_map_of_mem hmem, ?_⟩
  split
  · rw [hscope, hsame]
  · exact hsame

theorem wellformed_amend (h : Wellformed tables) (f : Policy → Policy)
    (hscope : ∀ policy, (f policy).scope = policy.scope)
    (hrevision : ∀ policy ∈ tables.policies, policy.scope = scope → 1 ≤ (f policy).revision)
    (auditEvents : List AuditEvent) :
    Wellformed
      { tables with policies := amend Policy.scope scope f tables.policies, auditEvents } where
  active := h.active
  roles := h.roles
  lasting := h.lasting
  grantees := h.grantees
  governed grant hmem := exists_policy_amend hscope (h.governed grant hmem)
  invited invitation hmem :=
    ⟨(h.invited invitation hmem).1, exists_policy_amend hscope (h.invited invitation hmem).2⟩
  invitationKeys := h.invitationKeys
  policies := by
    have hkeys : (amend Policy.scope scope f tables.policies).map Policy.scope =
        tables.policies.map Policy.scope := map_key_amend f fun policy hkey => by
      rw [hscope, hkey]
    exact hkeys ▸ h.policies
  revisions policy hmem := by
    obtain ⟨old, hold, rfl⟩ := List.mem_map.mp hmem
    split
    · rename_i hkey
      exact hrevision old hold hkey
    · exact h.revisions old hold

theorem wellformed_recordMutation (h : Wellformed tables) (hrevision : 0 ≤ revision)
    {actor action : String} {target : Option String} {metadata : List (String × String)} :
    Wellformed (recordMutation revision scope actor action target metadata tables).2 :=
  wellformed_amend h (fun policy => { policy with revision := revision + 1 }) (fun _ => rfl)
    (fun _ _ _ => Int.le_add_of_nonneg_left hrevision) _

/-! ### Grants -/

theorem insertGrant_eq_ok (h : insertGrant resolve grant tables = .ok tables') :
    grant.roleKey.Fits grant.scope.scopeType ∧
      ∃ grants, tables' = { tables with grants } ∧
        ((∃ old ∈ tables.grants, sameActive grant old) ∧
            grants = resolved sameActive resolve grant tables.grants ∨
          (∀ old ∈ tables.grants, ¬ sameActive grant old) ∧
            (∀ old ∈ tables.grants, ¬ sameGrantId grant old) ∧
            grants = tables.grants ++ [grant] ∧
            (∃ principal ∈ tables.principals, principal.id = grant.principalId) ∧
              ∃ policy ∈ tables.policies, policy.scope = grant.scope) := by
  rw [insertGrant] at h
  simp only [bind_eq_ok, require_eq_ok, exists_unit, stored_eq_ok] at h
  obtain ⟨hfits, grants, hgrants, hforeign, hsame⟩ := h
  refine ⟨hfits, grants, (Except.ok.inj hsame).symm, ?_⟩
  rcases insertOnConflict_eq_some.mp hgrants with ⟨hconflict, rfl⟩ | ⟨hnone, hid, rfl⟩
  · exact .inl ⟨hconflict, rfl⟩
  · refine .inr ⟨hnone, hid, rfl, hforeign.resolve_left ?_⟩
    rintro ⟨old, hmem, hold⟩
    exact hnone old hmem hold

theorem insertGrant_eq_ok_iff (hfits : grant.roleKey.Fits grant.scope.scopeType)
    (hprincipal : ∃ principal ∈ tables.principals, principal.id = grant.principalId)
    (hpolicy : ∃ policy ∈ tables.policies, policy.scope = grant.scope) :
    insertGrant resolve grant tables = .ok tables' ↔
      ∃ grants, insertOnConflict sameActive sameGrantId resolve grant tables.grants =
        some grants ∧ tables' = { tables with grants } := by
  simp only [insertGrant, bind_eq_ok, require_eq_ok, exists_unit, stored_eq_ok, hfits, true_and,
    hprincipal, hpolicy, and_self, or_true, Except.ok.injEq, @eq_comm _ tables']

theorem insertGrant_of_conflict (hfits : grant.roleKey.Fits grant.scope.scopeType)
    (hconflict : ∃ old ∈ tables.grants, sameActive grant old) :
    insertGrant resolve grant tables =
      .ok { tables with grants := resolved sameActive resolve grant tables.grants } := by
  rw [insertGrant, insertOnConflict, if_pos hconflict]
  simp only [bind_eq_ok, require_eq_ok, exists_unit, stored_eq_ok, hfits, true_and, hconflict,
    true_or, Option.some.injEq, exists_eq_left']

structure Resolves (roleKey : Role) (resolve : Grant → Grant) : Prop where
  status : ∀ grant, (resolve grant).status = grant.status
  principalId : ∀ grant, (resolve grant).principalId = grant.principalId
  scope : ∀ grant, (resolve grant).scope = grant.scope
  roleKey : ∀ grant, (resolve grant).roleKey = grant.roleKey ∨ (resolve grant).roleKey = roleKey
  expiresAt : ∀ grant, grant.expiresAt = none → (resolve grant).expiresAt = none

theorem resolves_id {roleKey : Role} : Resolves roleKey id :=
  ⟨fun _ => rfl, fun _ => rfl, fun _ => rfl, fun _ => .inl rfl, fun _ h => h⟩

theorem resolves_regranted {roleKey : Role} : Resolves roleKey (regranted roleKey) :=
  ⟨fun _ => rfl, fun _ => rfl, fun _ => rfl, fun _ => .inr rfl, fun _ _ => rfl⟩

theorem sameActive_symm {row other : Grant} (h : sameActive row other) : sameActive other row :=
  ⟨h.2.1, h.1, h.2.2.1.symm, h.2.2.2.symm⟩

theorem wellformed_insertGrant (h : Wellformed tables) (hresolve : Resolves grant.roleKey resolve)
    (hlasting : grant.expiresAt = none)
    (hinsert : insertGrant resolve grant tables = .ok tables') : Wellformed tables' := by
  obtain ⟨hfits, grants, rfl, hgrants⟩ := insertGrant_eq_ok hinsert
  have hrows : Apart sameActive grants ∧ ∀ row ∈ grants, row.roleKey.Fits row.scope.scopeType ∧
      row.expiresAt = none ∧
      (∃ principal ∈ tables.principals, principal.id = row.principalId) ∧
      ∃ policy ∈ tables.policies, policy.scope = row.scope := by
    rcases hgrants with ⟨-, rfl⟩ | ⟨hnone, -, rfl, hprincipal, hpolicy⟩
    · constructor
      · refine apart_map h.active fun row other => ?_
        have hkept : ∀ old, (if sameActive grant old then resolve old else old).status =
            old.status ∧ (if sameActive grant old then resolve old else old).principalId =
            old.principalId ∧ (if sameActive grant old then resolve old else old).scope =
            old.scope := by
          intro old
          split
          · exact ⟨hresolve.status old, hresolve.principalId old, hresolve.scope old⟩
          · exact ⟨rfl, rfl, rfl⟩
        simp only [sameActive] at hkept ⊢
        simp only [hkept, imp_self]
      · intro row hrow
        rcases mem_resolved.mp hrow with ⟨old, hold, hactive, rfl⟩ | ⟨hold, -⟩
        · refine ⟨?_, hresolve.expiresAt old (h.lasting old hold), ?_, ?_⟩
          · rw [hresolve.scope]
            rcases hresolve.roleKey old with hrole | hrole
            · rw [hrole]
              exact h.roles old hold
            · rw [hrole, ← hactive.2.2.2]
              exact hfits
          · rw [hresolve.principalId]
            exact h.grantees old hold
          · rw [hresolve.scope]
            exact h.governed old hold
        · exact ⟨h.roles row hold, h.lasting row hold, h.grantees row hold, h.governed row hold⟩
    · constructor
      · exact apart_append h.active fun old hmem hclash => hnone old hmem (sameActive_symm hclash)
      · intro row hrow
        rcases List.mem_append.mp hrow with hold | hnew
        · exact ⟨h.roles row hold, h.lasting row hold, h.grantees row hold, h.governed row hold⟩
        · rw [List.mem_singleton.mp hnew]
          exact ⟨hfits, hlasting, hprincipal, hpolicy⟩
  exact
    { active := hrows.1
      roles := fun row hrow => (hrows.2 row hrow).1
      lasting := fun row hrow => (hrows.2 row hrow).2.1
      grantees := fun row hrow => (hrows.2 row hrow).2.2.1
      governed := fun row hrow => (hrows.2 row hrow).2.2.2
      invited := h.invited
      invitationKeys := h.invitationKeys
      policies := h.policies
      revisions := h.revisions }

theorem active_of_lockActiveGrant (h : grant ∈ lockActiveGrant principalId scope tables) :
    grant ∈ tables.grants ∧ grant.Active principalId scope := by
  rw [lockActiveGrant, Option.mem_def] at h
  have hactive := List.find?_some h
  exact ⟨List.mem_of_find?_eq_some h, of_decide_eq_true hactive⟩

theorem lockActiveGrant_of_mem (h : Wellformed tables) (hmem : grant ∈ tables.grants)
    (hactive : grant.Active principalId scope) :
    lockActiveGrant principalId scope tables = some grant := by
  have hfind : ∀ {grants : List Grant}, Apart sameActive grants → grant ∈ grants →
      grants.find? (fun grant => decide (grant.Active principalId scope)) = some grant := by
    intro grants hapart hmem
    induction grants with
    | nil => cases hmem
    | cons first rest ih =>
        obtain ⟨hfirst, hrest⟩ := List.pairwise_cons.mp hapart
        rw [List.find?_cons]
        rcases List.mem_cons.mp hmem with rfl | hlater
        · simp [hactive]
        · have hother : ¬ first.Active principalId scope := by
            rintro ⟨hstatus, hprincipal, hscope⟩
            exact hfirst grant hlater ⟨hstatus, hactive.1, hprincipal.trans hactive.2.1.symm,
              hscope.trans hactive.2.2.symm⟩
          simp only [hother, decide_false]
          exact ih hrest hlater
  exact hfind h.active hmem

theorem wellformed_revoked (h : Wellformed tables) :
    Wellformed
      { tables with
        grants := tables.grants.map fun grant =>
          if grant.Active principalId scope then revoked grant else grant } := by
  have hkept : ∀ grant : Grant, ∀ row,
      row = (if grant.Active principalId scope then revoked grant else grant) →
        row.roleKey = grant.roleKey ∧ row.scope = grant.scope ∧
          row.expiresAt = grant.expiresAt ∧ row.principalId = grant.principalId ∧
          (row.status = .active → grant.status = .active) := by
    rintro grant row rfl
    split
    · exact ⟨rfl, rfl, rfl, rfl, fun hactive => nomatch hactive⟩
    · exact ⟨rfl, rfl, rfl, rfl, id⟩
  have hrows : ∀ row ∈ tables.grants.map (fun grant =>
      if grant.Active principalId scope then revoked grant else grant),
      row.roleKey.Fits row.scope.scopeType ∧ row.expiresAt = none ∧
        (∃ principal ∈ tables.principals, principal.id = row.principalId) ∧
        ∃ policy ∈ tables.policies, policy.scope = row.scope := by
    intro row hrow
    obtain ⟨old, hold, hsame⟩ := List.mem_map.mp hrow
    obtain ⟨hrole, hscope, hexpires, hprincipal, -⟩ := hkept old row hsame.symm
    rw [hrole, hscope, hexpires, hprincipal]
    exact ⟨h.roles old hold, h.lasting old hold, h.grantees old hold, h.governed old hold⟩
  exact
    { active := by
        refine apart_map h.active fun row other hclash => ?_
        obtain ⟨-, hscope, -, hprincipal, hstatus⟩ := hkept row _ rfl
        obtain ⟨-, hscope', -, hprincipal', hstatus'⟩ := hkept other _ rfl
        obtain ⟨hactive, hactive', hsame, hsame'⟩ := hclash
        exact ⟨hstatus hactive, hstatus' hactive', hprincipal.symm.trans (hsame.trans hprincipal'),
          hscope.symm.trans (hsame'.trans hscope')⟩
      roles := fun row hrow => (hrows row hrow).1
      lasting := fun row hrow => (hrows row hrow).2.1
      grantees := fun row hrow => (hrows row hrow).2.2.1
      governed := fun row hrow => (hrows row hrow).2.2.2
      invited := h.invited
      invitationKeys := h.invitationKeys
      policies := h.policies
      revisions := h.revisions }

/-! ### Principals, bindings and invitations -/

theorem wellformed_identities (h : Wellformed tables) {principals : List Principal}
    {bindings : List Binding}
    (hprincipals : ∀ principal ∈ tables.principals, ∃ other ∈ principals,
      other.id = principal.id) :
    Wellformed { tables with principals, bindings } where
  active := h.active
  roles := h.roles
  lasting := h.lasting
  grantees grant hmem := by
    obtain ⟨principal, hprincipal, hid⟩ := h.grantees grant hmem
    obtain ⟨other, hother, hsame⟩ := hprincipals principal hprincipal
    exact ⟨other, hother, hsame.trans hid⟩
  governed := h.governed
  invited := h.invited
  invitationKeys := h.invitationKeys
  policies := h.policies
  revisions := h.revisions

theorem ensurePrincipal_eq_ok {resolve : Principal → Principal} {principal : Principal} :
    ensurePrincipal resolve principal tables = .ok tables' ↔
      ∃ principals, insertOnConflict samePrincipal never resolve principal tables.principals =
        some principals ∧ tables' = { tables with principals } := by
  simp only [ensurePrincipal, bind_eq_ok, stored_eq_ok, Except.ok.injEq,
    @eq_comm _ tables']

theorem ensureBinding_eq_ok {resolve : Binding → Binding} {binding : Binding} :
    ensureBinding resolve binding tables = .ok tables' ↔
      ∃ bindings, insertOnConflict sameIdentity sameBindingId resolve binding tables.bindings =
        some bindings ∧ tables' = { tables with bindings } := by
  simp only [ensureBinding, bind_eq_ok, stored_eq_ok, Except.ok.injEq,
    @eq_comm _ tables']

theorem insertPrincipalBinding_eq_ok {bindingId verifiedEmail : String}
    {identity : VerifiedIdentity}
    (h : insertPrincipalBinding principalId bindingId identity verifiedEmail tables =
      .ok tables') :
    ∃ principals bindings, tables' = { tables with principals, bindings } ∧
      (∀ principal ∈ tables.principals, principal.id ≠ principalId) ∧
      principals = tables.principals ++
        [⟨principalId, .human, some verifiedEmail, .active⟩] := by
  rw [insertPrincipalBinding] at h
  simp only [bind_eq_ok, stored_eq_ok, insertRow_eq_some] at h
  obtain ⟨principals, ⟨hnew, rfl⟩, bindings, -, hsame⟩ := h
  exact ⟨_, bindings, (Except.ok.inj hsame).symm,
    fun principal hmem hid => hnew principal hmem hid.symm, rfl⟩

theorem ensurePolicy_eq_ok :
    ensurePolicy scope tables = .ok tables' ↔ scope.Valid ∧
      ∃ policies, insertOnConflict sameScope never id (⟨scope, 1⟩ : Policy) tables.policies =
        some policies ∧ tables' = { tables with policies } := by
  simp only [ensurePolicy, bind_eq_ok, require_eq_ok, exists_unit, stored_eq_ok,
    Except.ok.injEq, @eq_comm _ tables']

theorem policies_of_ensurePolicy (h : ensurePolicy scope tables = .ok tables') :
    (∃ policy ∈ tables.policies, policy.scope = scope) ∧ tables' = tables ∨
      lookup Policy.scope scope tables.policies = none ∧
        tables' = { tables with policies := tables.policies ++ [⟨scope, 1⟩] } := by
  obtain ⟨-, policies, hpolicies, rfl⟩ := ensurePolicy_eq_ok.mp h
  rcases insertOnConflict_eq_some.mp hpolicies with ⟨⟨policy, hmem, hscope⟩, rfl⟩ |
    ⟨hnone, -, rfl⟩
  · refine .inl ⟨⟨policy, hmem, hscope.symm⟩, ?_⟩
    have hkept : resolved sameScope id ⟨scope, 1⟩ tables.policies = tables.policies :=
      resolved_eq_self fun _ _ _ => rfl
    rw [hkept]
  · refine .inr ⟨?_, rfl⟩
    rw [lookup_eq_none_iff, List.mem_map]
    rintro ⟨policy, hmem, hscope⟩
    exact hnone policy hmem hscope.symm

theorem wellformed_ensurePolicy (h : Wellformed tables)
    (hensure : ensurePolicy scope tables = .ok tables') : Wellformed tables' := by
  rcases policies_of_ensurePolicy hensure with ⟨-, rfl⟩ | ⟨hnone, rfl⟩
  · exact h
  · exact wellformed_policy h hnone

theorem wellformed_ensurePrincipal (h : Wellformed tables) {resolve : Principal → Principal}
    {principal : Principal} (hresolve : ∀ principal, (resolve principal).id = principal.id)
    (hensure : ensurePrincipal resolve principal tables = .ok tables') : Wellformed tables' := by
  obtain ⟨principals, hprincipals, rfl⟩ := ensurePrincipal_eq_ok.mp hensure
  refine wellformed_identities h fun old hmem => ?_
  rcases insertOnConflict_eq_some.mp hprincipals with ⟨-, rfl⟩ | ⟨-, -, rfl⟩
  · by_cases hsame : samePrincipal principal old
    · exact ⟨resolve old, mem_resolved.mpr (.inl ⟨old, hmem, hsame, rfl⟩), hresolve old⟩
    · exact ⟨old, mem_resolved.mpr (.inr ⟨hmem, hsame⟩), rfl⟩
  · exact ⟨old, List.mem_append_left _ hmem, rfl⟩

theorem wellformed_ensureBinding (h : Wellformed tables) {resolve : Binding → Binding}
    {binding : Binding} (hensure : ensureBinding resolve binding tables = .ok tables') :
    Wellformed tables' := by
  obtain ⟨bindings, -, rfl⟩ := ensureBinding_eq_ok.mp hensure
  exact wellformed_identities h fun principal hmem => ⟨principal, hmem, rfl⟩

theorem sameInvitation_symm {row other : Invitation} (h : sameInvitation row other) :
    sameInvitation other row := h.imp Eq.symm Eq.symm

theorem wellformed_invitation (h : Wellformed tables) {invitation : Invitation}
    (hfits : invitation.roleKey.Fits invitation.scope.scopeType)
    (hpolicy : ∃ policy ∈ tables.policies, policy.scope = invitation.scope)
    (hnew : Absent sameInvitation invitation tables.invitations) :
    Wellformed { tables with invitations := tables.invitations ++ [invitation] } where
  active := h.active
  roles := h.roles
  lasting := h.lasting
  grantees := h.grantees
  governed := h.governed
  invited other hmem := by
    rcases List.mem_append.mp hmem with hold | hlast
    · exact h.invited other hold
    · rw [List.mem_singleton.mp hlast]
      exact ⟨hfits, hpolicy⟩
  invitationKeys := apart_append h.invitationKeys fun old hmem hclash =>
    hnew old hmem (sameInvitation_symm hclash)
  policies := h.policies
  revisions := h.revisions

theorem consumeInvitation_eq_ok {invitationId : String}
    (h : consumeInvitation invitationId principalId scope tables = .ok (revision, tables')) :
    ∃ policy auditEvents, lookup Policy.scope scope tables.policies = some policy ∧
      tables' =
        { tables with
          invitations := tables.invitations.map fun invitation =>
            if invitation.id = invitationId ∧ invitation.status = .pending then
              accepted principalId invitation
            else invitation
          policies := amend Policy.scope scope
            (fun policy => { policy with revision := policy.revision + 1 }) tables.policies
          auditEvents } := by
  rw [consumeInvitation] at h
  split at h
  · split at h
    · cases h
    · rename_i policy hpolicy
      obtain ⟨-, rfl⟩ := Prod.mk.inj (Except.ok.inj h)
      exact ⟨policy, _, hpolicy, rfl⟩
  · cases h

theorem consumeInvitation_isOk {invitation : Invitation} (hmem : invitation ∈ tables.invitations)
    (hpending : invitation.status = .pending)
    (hpolicy : ∃ policy ∈ tables.policies, policy.scope = scope) :
    ∃ revision tables', consumeInvitation invitation.id principalId scope tables =
      .ok (revision, tables') := by
  rw [consumeInvitation, if_pos ⟨invitation, hmem, rfl, hpending⟩]
  cases hlookup : lookup Policy.scope scope tables.policies with
  | none =>
      obtain ⟨policy, hmem, rfl⟩ := hpolicy
      exact absurd (List.mem_map_of_mem hmem) (lookup_eq_none_iff.mp hlookup)
  | some policy => exact ⟨_, _, rfl⟩

theorem wellformed_consumeInvitation (h : Wellformed tables) {invitationId : String}
    (hconsume : consumeInvitation invitationId principalId scope tables =
      .ok (revision, tables')) : Wellformed tables' := by
  obtain ⟨policy, auditEvents, -, rfl⟩ := consumeInvitation_eq_ok hconsume
  have hraised : ∀ policy ∈ tables.policies, policy.scope = scope → 1 ≤ policy.revision + 1 := by
    intro policy hmem _
    have := h.revisions policy hmem
    omega
  have hamended := wellformed_amend h
    (fun policy => { policy with revision := policy.revision + 1 }) (fun _ => rfl) hraised
    auditEvents
  exact
    { hamended with
      invited := fun invitation hmem => by
        obtain ⟨old, hold, rfl⟩ := List.mem_map.mp hmem
        have hinvited := hamended.invited old hold
        split <;> exact hinvited
      invitationKeys := by
        refine apart_map hamended.invitationKeys fun row other hclash => ?_
        have hkept : ∀ row : Invitation, (if row.id = invitationId ∧ row.status = .pending then
            accepted principalId row else row).id = row.id ∧
            (if row.id = invitationId ∧ row.status = .pending then
              accepted principalId row else row).tokenHash = row.tokenHash := by
          intro row
          split <;> exact ⟨rfl, rfl⟩
        simpa only [sameInvitation, hkept] using hclash }

end MindscapeLocalCore.AccessControl.Writes
