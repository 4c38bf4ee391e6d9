import MindscapeLocalCore.AccessControl.Reads
/-!
What the readers see of an imported grant. The grant goes to the principal whose id is the
digest of the identity, and a reader takes the principal that the identity is bound to: an
invitation that was accepted before has bound it to another one.
-/

namespace MindscapeLocalCore.AccessControl.Imports

open Bootstrap Reads Repository Runs Schema Library.Guarded Library.UniqueInsert

variable {p : Platform} {now : Timestamp} {tables tables' : Tables} {identity : VerifiedIdentity}
  {verifiedEmail : Option String} {scope : Scope} {role : Role} {actorId workspaceId : String}

def importedPrincipal (p : Platform) (identity : VerifiedIdentity)
    (verifiedEmail : Option String) : Principal :=
  ⟨importedPrincipalId p identity, .human, verifiedEmail, .active⟩

def importedBinding (p : Platform) (identity : VerifiedIdentity)
    (verifiedEmail : Option String) : Binding :=
  ⟨importedBindingId p identity, importedPrincipalId p identity, identity, verifiedEmail, .active⟩

def importedGrant (p : Platform) (identity : VerifiedIdentity) (scope : Scope) (role : Role)
    (actorId : String) : Grant :=
  activeGrant (importedGrantId p identity scope role) (importedPrincipalId p identity) scope role
    actorId

/-- `ON CONFLICT (id) DO UPDATE` of the principal. -/
def reactivated (verifiedEmail : Option String) (principal : Principal) : Principal :=
  { principal with displayEmail := verifiedEmail <|> principal.displayEmail, status := .active }

/-- `ON CONFLICT (provider, issuer, subject) DO UPDATE` of the binding. -/
def confirmed (verifiedEmail : Option String) (binding : Binding) : Binding :=
  { binding with verifiedEmail := verifiedEmail <|> binding.verifiedEmail, status := .active }

theorem imported_of_true
    (h : importGrant p identity verifiedEmail scope role actorId tables = .ok (true, tables')) :
    role.Fits scope.scopeType ∧ ∃ principals bindings policies,
      insertOnConflict samePrincipal never (reactivated verifiedEmail)
          (importedPrincipal p identity verifiedEmail) tables.principals = some principals ∧
        insertOnConflict sameIdentity sameBindingId (confirmed verifiedEmail)
          (importedBinding p identity verifiedEmail) tables.bindings = some bindings ∧
        tables' = { tables with
          principals, bindings, policies
          grants := tables.grants ++ [importedGrant p identity scope role actorId] } := by
  rw [importGrant_eq] at h
  simp only [bind_eq_ok, require_eq_ok, exists_unit, map_eq_ok] at h
  obtain ⟨hfits, inserted, hinsert, hsame⟩ := h
  obtain ⟨hnew, rfl⟩ := Prod.mk.inj hsame
  obtain ⟨-, principals, bindings, policies, grants, hprincipals, hbindings, -, hgrants, rfl⟩ :=
    (insert_eq_ok (coherent_imported hfits identity verifiedEmail actorId)).mp hinsert
  obtain ⟨rows, hrow, hlast⟩ := insertAll_cons_eq_some.mp hprincipals
  obtain rfl := Option.some.inj hlast
  obtain ⟨rows, hbinding, hlast⟩ := insertAll_cons_eq_some.mp hbindings
  obtain rfl := Option.some.inj hlast
  obtain ⟨rows, hgrant, hlast⟩ := insertAll_cons_eq_some.mp hgrants
  obtain rfl := Option.some.inj hlast
  refine ⟨hfits, _, _, policies, hrow, hbinding, ?_⟩
  rcases insertOnConflict_eq_some.mp hgrant with ⟨-, rfl⟩ | ⟨-, -, rfl⟩
  · refine absurd ?_ (of_decide_eq_true hnew)
    exact List.length_map _
  · rfl

/-! ### Principals and bindings -/

variable {principals : List Principal} {bindings : List Binding} {principalId : String}

theorem principalActive_imported
    (h : insertOnConflict samePrincipal never (reactivated verifiedEmail)
      (importedPrincipal p identity verifiedEmail) tables.principals = some principals)
    (hrows : tables'.principals = principals) :
    Tables.PrincipalActive tables' principalId ↔
      principalId = importedPrincipalId p identity ∨ Tables.PrincipalActive tables principalId := by
  rw [Tables.PrincipalActive, hrows]
  rcases insertOnConflict_eq_some.mp h with ⟨⟨first, hfirst, hid⟩, rfl⟩ | ⟨-, -, rfl⟩
  · constructor
    · rintro ⟨principal, hmem, rfl, hactive⟩
      rcases mem_resolved.mp hmem with ⟨old, hold, hsame, rfl⟩ | ⟨hold, -⟩
      · exact .inl hsame.symm
      · exact .inr ⟨principal, hold, rfl, hactive⟩
    · rintro (rfl | ⟨principal, hmem, rfl, hactive⟩)
      · exact ⟨reactivated verifiedEmail first,
          mem_resolved.mpr (.inl ⟨first, hfirst, hid, rfl⟩), hid.symm, rfl⟩
      · by_cases hsame : samePrincipal (importedPrincipal p identity verifiedEmail) principal
        · exact ⟨reactivated verifiedEmail principal,
            mem_resolved.mpr (.inl ⟨principal, hmem, hsame, rfl⟩), rfl, rfl⟩
        · exact ⟨principal, mem_resolved.mpr (.inr ⟨hmem, hsame⟩), rfl, hactive⟩
  · constructor
    · rintro ⟨principal, hmem, rfl, hactive⟩
      rcases List.mem_append.mp hmem with hold | hnew
      · exact .inr ⟨principal, hold, rfl, hactive⟩
      · rw [List.mem_singleton.mp hnew]
        exact .inl rfl
    · rintro (rfl | ⟨principal, hmem, rfl, hactive⟩)
      · exact ⟨_, List.mem_append_right _ (List.mem_singleton_self _), rfl, rfl⟩
      · exact ⟨principal, List.mem_append_left _ hmem, rfl, hactive⟩

theorem apart_imported (hapart : Apart sameIdentity tables.bindings)
    (h : importGrant p identity verifiedEmail scope role actorId tables = .ok (true, tables')) :
    Apart sameIdentity tables'.bindings := by
  have hperform : perform p tables
      ⟨0, .importVerifiedGrant identity verifiedEmail scope role actorId⟩ = .ok tables' :=
    map_eq_ok.mpr ⟨_, h, rfl⟩
  exact apart_perform hapart hperform

theorem mem_boundIdentity_imported (hapart : Apart sameIdentity tables.bindings)
    (h : importGrant p identity verifiedEmail scope role actorId tables = .ok (true, tables'))
    (principalId : String) :
    (∃ binding ∈ boundIdentity identity tables', binding.principalId = principalId) ↔
      ((∃ old ∈ tables.bindings, old.identity = identity ∧ old.principalId = principalId) ∨
        (∀ old ∈ tables.bindings, old.identity ≠ identity) ∧
          principalId = importedPrincipalId p identity) ∧
      (principalId = importedPrincipalId p identity ∨
        Tables.PrincipalActive tables principalId) := by
  obtain ⟨-, principals, bindings, policies, hprincipals, hbindings, hsame⟩ := imported_of_true h
  have hactive : ∀ {principalId : String}, Tables.PrincipalActive tables' principalId ↔
      principalId = importedPrincipalId p identity ∨
        Tables.PrincipalActive tables principalId :=
    principalActive_imported hprincipals (by rw [hsame])
  have hrows : tables'.bindings = bindings := by rw [hsame]
  simp only [Option.mem_def, boundIdentity_eq_some (apart_imported hapart h), hrows]
  constructor
  · rintro ⟨binding, ⟨hmem, hidentity, -, hpresent⟩, rfl⟩
    refine ⟨?_, hactive.mp hpresent⟩
    rcases insertOnConflict_eq_some.mp hbindings with ⟨-, rfl⟩ | ⟨hnone, -, rfl⟩
    · rcases mem_resolved.mp hmem with ⟨old, hold, -, rfl⟩ | ⟨hold, -⟩
      · exact .inl ⟨old, hold, hidentity, rfl⟩
      · exact .inl ⟨binding, hold, hidentity, rfl⟩
    · rcases List.mem_append.mp hmem with hold | hnew
      · exact .inl ⟨binding, hold, hidentity, rfl⟩
      · rw [List.mem_singleton.mp hnew]
        exact .inr ⟨fun old hold hsame => hnone old hold hsame.symm, rfl⟩
  · rintro ⟨⟨old, hold, hidentity, rfl⟩ | ⟨hnone, rfl⟩, hpresent⟩
    · rcases insertOnConflict_eq_some.mp hbindings with ⟨-, rfl⟩ | ⟨hnone, -, rfl⟩
      · exact ⟨confirmed verifiedEmail old,
          ⟨mem_resolved.mpr (.inl ⟨old, hold, hidentity.symm, rfl⟩), hidentity, rfl,
            hactive.mpr hpresent⟩, rfl⟩
      · exact absurd hidentity.symm (hnone old hold)
    · rcases insertOnConflict_eq_some.mp hbindings with ⟨⟨old, hold, hidentity⟩, -⟩ | ⟨-, -, rfl⟩
      · exact absurd hidentity.symm (hnone old hold)
      · exact ⟨importedBinding p identity verifiedEmail,
          ⟨List.mem_append_right _ (List.mem_singleton_self _), rfl, rfl,
            hactive.mpr (.inl rfl)⟩, rfl⟩

theorem boundIdentity_imported_of_ne (hapart : Apart sameIdentity tables.bindings)
    (h : importGrant p identity verifiedEmail scope role actorId tables = .ok (true, tables'))
    {other : VerifiedIdentity} (hne : other ≠ identity) {binding : Binding}
    (hbound : boundIdentity other tables = some binding) :
    boundIdentity other tables' = some binding := by
  obtain ⟨hmem, rfl, hstatus, hpresent⟩ := (boundIdentity_eq_some hapart).mp hbound
  obtain ⟨-, principals, bindings, policies, hprincipals, hbindings, hsame⟩ := imported_of_true h
  refine (boundIdentity_eq_some (apart_imported hapart h)).mpr ⟨?_, rfl, hstatus, ?_⟩
  · rw [hsame]
    rcases insertOnConflict_eq_some.mp hbindings with ⟨-, rfl⟩ | ⟨-, -, rfl⟩
    · exact mem_resolved.mpr (.inr ⟨hmem, fun hclash => hne hclash.symm⟩)
    · exact List.mem_append_left _ hmem
  · exact (principalActive_imported hprincipals (by rw [hsame])).mpr (.inr hpresent)

/-! ### Whom the grant reaches -/

/-- The identity has the role in the workspace afterwards, and every other identity that is
active keeps its roles in every workspace. -/
structure ReachesOnly (now : Timestamp) (identity : VerifiedIdentity) (workspaceId : String)
    (role : Role) (tables tables' : Tables) : Prop where
  reaches : role ∈ (resolveEffectiveAccess now identity (some workspaceId) tables').roles
  others : ∀ other, other ≠ identity → (boundIdentity other tables).isSome = true →
    ∀ workspaceId, (resolveEffectiveAccess now other (some workspaceId) tables').roles =
      (resolveEffectiveAccess now other (some workspaceId) tables).roles

def HasRole (now : Timestamp) (tables : Tables) (workspaceId : String) (role : Role)
    (principalId : String) : Prop :=
  Tables.PrincipalActive tables principalId ∧ ∃ grant ∈ tables.grants,
    grant.principalId = principalId ∧ Grant.Effective now grant ∧
      InScope (some workspaceId) grant.scope ∧ grant.roleKey = role

structure BoundToImport (p : Platform) (now : Timestamp) (identity : VerifiedIdentity)
    (workspaceId : String) (role : Role) (tables : Tables) : Prop where
  own : ∀ binding ∈ tables.bindings, binding.identity = identity →
    binding.principalId = importedPrincipalId p identity ∨
      HasRole now tables workspaceId role binding.principalId
  others : ∀ other, other ≠ identity → ∀ binding ∈ boundIdentity other tables,
    binding.principalId ≠ importedPrincipalId p identity

theorem effective_importedGrant :
    Grant.Effective now (importedGrant p identity scope role actorId) :=
  ⟨rfl, fun _ h => nomatch h⟩

theorem reaches_iff (hapart : Apart sameIdentity tables.bindings)
    (h : importGrant p identity verifiedEmail (workspace workspaceId) role actorId tables =
      .ok (true, tables')) :
    role ∈ (resolveEffectiveAccess now identity (some workspaceId) tables').roles ↔
      ∀ binding ∈ tables.bindings, binding.identity = identity →
        binding.principalId = importedPrincipalId p identity ∨
          HasRole now tables workspaceId role binding.principalId := by
  have hbound := mem_boundIdentity_imported hapart h
  obtain ⟨-, principals, bindings, policies, -, -, hsame⟩ := imported_of_true h
  have hgrants : tables'.grants = tables.grants ++
      [importedGrant p identity (workspace workspaceId) role actorId] := by rw [hsame]
  have hnew : importedGrant p identity (workspace workspaceId) role actorId ∈ tables'.grants := by
    rw [hgrants]
    exact List.mem_append_right _ (List.mem_singleton_self _)
  rw [mem_roles]
  constructor
  · rintro ⟨binding, hbinding, grant, hgrant, hprincipal, heffective, hscope, hrole⟩ old hold hidentity
    obtain ⟨hwhich, hpresent⟩ := (hbound _).mp ⟨binding, hbinding, rfl⟩
    have hsameId : old.principalId = binding.principalId := by
      rcases hwhich with ⟨other, hother, hidentity', hid⟩ | ⟨hnone, -⟩
      · rw [← hid, eq_of_apart hapart (fun _ _ => Eq.symm) hold hother
          (hidentity.trans hidentity'.symm)]
      · exact absurd hidentity (hnone old hold)
    rw [hsameId]
    rw [hgrants] at hgrant
    rcases List.mem_append.mp hgrant with hmem | hlast
    · refine hpresent.imp id fun hactive => ⟨hactive, grant, hmem, hprincipal, heffective, hscope,
        hrole⟩
    · rw [List.mem_singleton.mp hlast] at hprincipal
      exact .inl hprincipal.symm
  · intro hown
    have himported : (∃ binding ∈ boundIdentity identity tables',
        binding.principalId = importedPrincipalId p identity) →
        ∃ binding ∈ boundIdentity identity tables', ∃ grant ∈ tables'.grants,
          grant.principalId = binding.principalId ∧ Grant.Effective now grant ∧
            InScope (some workspaceId) grant.scope ∧ grant.roleKey = role := by
      rintro ⟨binding, hbinding, hid⟩
      exact ⟨binding, hbinding, _, hnew, hid.symm, effective_importedGrant,
        .inr ⟨workspaceId, rfl, rfl⟩, rfl⟩
    by_cases hany : ∃ old ∈ tables.bindings, old.identity = identity
    · obtain ⟨old, hold, hidentity⟩ := hany
      rcases hown old hold hidentity with hid | ⟨hactive, grant, hmem, hprincipal, heffective,
        hscope, hrole⟩
      · exact himported ((hbound _).mpr ⟨.inl ⟨old, hold, hidentity, hid⟩, .inl rfl⟩)
      · obtain ⟨binding, hbinding, hid⟩ := (hbound _).mpr
          ⟨.inl ⟨old, hold, hidentity, rfl⟩, .inr hactive⟩
        refine ⟨binding, hbinding, grant, ?_, hprincipal.trans hid.symm, heffective, hscope, hrole⟩
        rw [hgrants]
        exact List.mem_append_left _ hmem
    · refine himported ((hbound _).mpr ⟨.inr ⟨fun old hold hidentity => hany ⟨old, hold, hidentity⟩,
        rfl⟩, .inl rfl⟩)

theorem roles_imported_of_ne (hapart : Apart sameIdentity tables.bindings)
    (h : importGrant p identity verifiedEmail (workspace workspaceId) role actorId tables =
      .ok (true, tables'))
    {other : VerifiedIdentity} (hne : other ≠ identity) {binding : Binding}
    (hbound : boundIdentity other tables = some binding) :
    (∀ workspaceId, (resolveEffectiveAccess now other (some workspaceId) tables').roles =
      (resolveEffectiveAccess now other (some workspaceId) tables).roles) ↔
      binding.principalId ≠ importedPrincipalId p identity := by
  have hafter := boundIdentity_imported_of_ne hapart h hne hbound
  obtain ⟨-, principals, bindings, policies, -, -, hsame⟩ := imported_of_true h
  have hgrants : tables'.grants = tables.grants ++
      [importedGrant p identity (workspace workspaceId) role actorId] := by rw [hsame]
  simp only [resolveEffectiveAccess, hbound, hafter]
  constructor
  · intro hroles hid
    have hlength := congrArg List.length (hroles workspaceId)
    have hin : InScope (some workspaceId) (workspace workspaceId) := .inr ⟨workspaceId, rfl, rfl⟩
    have hlast : (effectiveGrants now (some workspaceId) tables' binding.principalId).length =
        (effectiveGrants now (some workspaceId) tables binding.principalId).length + 1 := by
      rw [effectiveGrants, effectiveGrants, hgrants, List.filter_append, List.length_append,
        List.filter_cons_of_pos]
      · rfl
      · exact decide_eq_true ⟨hid.symm, effective_importedGrant, hin⟩
    simp only [orderedRoles, List.length_mergeSort, List.length_map, hlast] at hlength
    omega
  · intro hid workspace'
    have hkept : effectiveGrants now (some workspace') tables' binding.principalId =
        effectiveGrants now (some workspace') tables binding.principalId := by
      rw [effectiveGrants, effectiveGrants, hgrants, List.filter_append, List.filter_cons_of_neg,
        List.filter_nil, List.append_nil]
      intro hfits
      exact hid (of_decide_eq_true hfits).1.symm
    rw [hkept]

theorem reachesOnly_iff (hapart : Apart sameIdentity tables.bindings)
    (h : importGrant p identity verifiedEmail (workspace workspaceId) role actorId tables =
      .ok (true, tables')) :
    ReachesOnly now identity workspaceId role tables tables' ↔
      BoundToImport p now identity workspaceId role tables := by
  constructor
  · rintro ⟨hreaches, hothers⟩
    refine ⟨(reaches_iff hapart h).mp hreaches, fun other hne binding hbound => ?_⟩
    refine (roles_imported_of_ne hapart h hne hbound).mp (hothers other hne ?_)
    rw [Option.mem_def.mp hbound]
    rfl
  · rintro ⟨hown, hothers⟩
    refine ⟨(reaches_iff hapart h).mpr hown, fun other hne hbound => ?_⟩
    obtain ⟨binding, hbinding⟩ := Option.isSome_iff_exists.mp hbound
    exact (roles_imported_of_ne hapart h hne hbinding).mpr (hothers other hne binding hbinding)

/-- After any transactions, an import that reports a new grant in a workspace reaches the
identity alone exactly where the identity is bound to the principal of the import. -/
theorem import_reaches_iff (calls : List Call)
    (h : importGrant p identity verifiedEmail (workspace workspaceId) role actorId
      (after p calls) = .ok (true, tables')) :
    ReachesOnly now identity workspaceId role (after p calls) tables' ↔
      BoundToImport p now identity workspaceId role (after p calls) :=
  reachesOnly_iff (apart_after calls) h

def ada : VerifiedIdentity := ⟨"oidc", "issuer", "ada"⟩

theorem import_reaches_new_identity :
    ∃ tables', importGrant ⟨id, id, id⟩ ada none (workspace "w") .workspaceViewer "a"
        (after ⟨id, id, id⟩ []) = .ok (true, tables') ∧
      ReachesOnly 1 ada "w" .workspaceViewer (after ⟨id, id, id⟩ []) tables' :=
  ⟨_, rfl, (import_reaches_iff [] rfl).mpr
    ⟨fun _ h => absurd h List.not_mem_nil, fun _ _ _ h => nomatch h⟩⟩

def invitedBefore : List Call :=
  [⟨1, .createInvitation "i" (workspace "v") "ada@core" .workspaceViewer "t" 9 "a" 0⟩,
   ⟨2, .acceptInvitation ⟨"q", "c", "g"⟩ "t" ada "ada@core"⟩]

/-- The import reports a new grant, and the identity does not have the role. -/
theorem import_misses_invited_identity :
    ∃ tables', importGrant ⟨id, id, id⟩ ada none (workspace "w") .workspaceViewer "a"
        (after ⟨id, id, id⟩ invitedBefore) = .ok (true, tables') ∧
      ¬ ReachesOnly 3 ada "w" .workspaceViewer (after ⟨id, id, id⟩ invitedBefore) tables' := by
  refine ⟨_, rfl, fun h => ?_⟩
  have hreaches := h.reaches
  rw [mem_roles] at hreaches
  revert hreaches
  decide

end MindscapeLocalCore.AccessControl.Imports
