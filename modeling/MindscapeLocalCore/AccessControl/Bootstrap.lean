import MindscapeLocalCore.AccessControl.Writes
/-!
The recovery bootstrap, the owner backfill and the import as one shape: principals,
bindings, policies and grants that are inserted table by table.
-/

namespace MindscapeLocalCore.AccessControl.Bootstrap

open Repository Schema Writes Library.Guarded Library.UniqueInsert

structure Rows where
  principals : List Principal
  bindings : List Binding
  scopes : List Scope
  grants : List Grant
  updatePrincipal : Principal → Principal → Principal
  updateBinding : Binding → Binding → Binding
  updateGrant : Grant → Grant → Grant

def firstPolicy (scope : Scope) : Policy := ⟨scope, 1⟩

def Rows.insert (b : Rows) (tables : Tables) : Except AccessError Tables := do
  let tables ← b.principals.foldlM
    (fun tables row => ensurePrincipal (b.updatePrincipal row) row tables) tables
  let tables ← b.bindings.foldlM
    (fun tables row => ensureBinding (b.updateBinding row) row tables) tables
  let tables ← b.scopes.foldlM (fun tables scope => ensurePolicy scope tables) tables
  b.grants.foldlM (fun tables row => insertGrant (b.updateGrant row) row tables) tables

/-! ### The three operations -/

def rebound (row binding : Binding) : Binding :=
  { binding with principalId := row.principalId, status := .active }

def recovery (localUserId : String) : Rows where
  principals := [localPrincipal localUserId]
  bindings := [localBinding localUserId]
  scopes := [localCore]
  grants := [localGrant localUserId]
  updatePrincipal _ principal := { principal with status := .active }
  updateBinding := rebound
  updateGrant row := regranted row.roleKey

def backfill (p : Platform) (actorId : String) (workspaces : List Workspace) : Rows where
  principals := ((owners workspaces).map Owner.ownerUserId).dedup.map localPrincipal
  bindings := ((owners workspaces).map Owner.ownerUserId).dedup.map localBinding
  scopes := (owners workspaces).map fun owner => workspace owner.workspaceId
  grants := (owners workspaces).map (ownerGrant p actorId)
  updatePrincipal _ principal := { principal with status := .active }
  updateBinding := rebound
  updateGrant _ := id

def imported (p : Platform) (identity : VerifiedIdentity) (verifiedEmail : Option String)
    (scope : Scope) (roleKey : Role) (actorId : String) : Rows where
  principals := [⟨importedPrincipalId p identity, .human, verifiedEmail, .active⟩]
  bindings := [⟨importedBindingId p identity, importedPrincipalId p identity, identity,
    verifiedEmail, .active⟩]
  scopes := [scope]
  grants := [activeGrant (importedGrantId p identity scope roleKey)
    (importedPrincipalId p identity) scope roleKey actorId]
  updatePrincipal row principal :=
    { principal with
      displayEmail := row.displayEmail <|> principal.displayEmail, status := .active }
  updateBinding row binding :=
    { binding with
      verifiedEmail := row.verifiedEmail <|> binding.verifiedEmail, status := .active }
  updateGrant _ := id

variable {p : Platform} {tables tables' : Tables}

theorem ensureLocalRecoveryOwner_eq (localUserId : String) :
    ensureLocalRecoveryOwner localUserId tables =
      ((recovery localUserId).insert tables).map (Prod.mk (localPrincipalId localUserId)) := by
  rw [ensureLocalRecoveryOwner, Rows.insert]
  simp only [recovery, List.foldlM_cons, List.foldlM_nil, bind_pure, map_bind]
  simp only [map_eq_bind]
  rfl

theorem backfillWorkspaceOwners_eq (actorId : String) (workspaces : List Workspace) :
    backfillWorkspaceOwners p actorId workspaces tables =
      ((backfill p actorId workspaces).insert tables).map fun tables' =>
        (tables'.grants.length - tables.grants.length, tables') := by
  rw [backfillWorkspaceOwners, Rows.insert]
  simp only [backfill, List.foldlM_map, map_bind]
  simp only [map_eq_bind]
  rfl

theorem importGrant_eq (identity : VerifiedIdentity) (verifiedEmail : Option String)
    (scope : Scope) (roleKey : Role) (actorId : String) :
    importGrant p identity verifiedEmail scope roleKey actorId tables =
      (require (roleKey.Fits scope.scopeType) .roleScopeMismatch) >>= fun _ =>
        ((imported p identity verifiedEmail scope roleKey actorId).insert tables).map fun tables' =>
          (decide (tables'.grants.length ≠ tables.grants.length), tables') := by
  rw [importGrant, importVerifiedGrant, Rows.insert]
  simp only [imported, List.foldlM_cons, List.foldlM_nil, bind_pure, map_bind]
  simp only [map_eq_bind]

/-! ### What an insertion leaves -/

/-- The grants have their principal and their policy among the rows, and no update changes
what the indexes read. -/
structure Rows.Coherent (b : Rows) : Prop where
  principalId : ∀ row old, (b.updatePrincipal row old).id = old.id
  bindingId : ∀ row old, (b.updateBinding row old).id = old.id
  identity : ∀ row old, (b.updateBinding row old).identity = old.identity
  grantId : ∀ row old, (b.updateGrant row old).id = old.id
  resolves : ∀ row, Resolves row.roleKey (b.updateGrant row)
  fits : ∀ row ∈ b.grants, row.roleKey.Fits row.scope.scopeType
  active : ∀ row ∈ b.grants, row.status = .active
  lasting : ∀ row ∈ b.grants, row.expiresAt = none
  grantees : ∀ row ∈ b.grants, ∃ principal ∈ b.principals, principal.id = row.principalId
  governed : ∀ row ∈ b.grants, row.scope ∈ b.scopes

theorem coherent_recovery (localUserId : String) : (recovery localUserId).Coherent where
  principalId _ _ := rfl
  bindingId _ _ := rfl
  identity _ _ := rfl
  grantId _ _ := rfl
  resolves _ := resolves_regranted
  fits := by simp [recovery, localGrant, activeGrant, Role.Fits, localCore]
  active := by simp [recovery, localGrant, activeGrant]
  lasting := by simp [recovery, localGrant, activeGrant]
  grantees := by simp [recovery, localGrant, activeGrant, localPrincipal]
  governed := by simp [recovery, localGrant, activeGrant]

theorem coherent_backfill (actorId : String) (workspaces : List Workspace) :
    (backfill p actorId workspaces).Coherent where
  principalId _ _ := rfl
  bindingId _ _ := rfl
  identity _ _ := rfl
  grantId _ _ := rfl
  resolves _ := resolves_id
  fits := by simp [backfill, ownerGrant, activeGrant, Role.Fits, workspace]
  active := by simp [backfill, ownerGrant, activeGrant]
  lasting := by simp [backfill, ownerGrant, activeGrant]
  grantees row hrow := by
    obtain ⟨owner, howner, rfl⟩ := List.mem_map.mp hrow
    refine ⟨localPrincipal owner.ownerUserId, List.mem_map_of_mem ?_, rfl⟩
    exact List.mem_dedup.mpr (List.mem_map_of_mem howner)
  governed row hrow := by
    obtain ⟨owner, howner, rfl⟩ := List.mem_map.mp hrow
    exact List.mem_map_of_mem howner

theorem coherent_imported {roleKey : Role} {scope : Scope}
    (hfits : roleKey.Fits scope.scopeType) (identity : VerifiedIdentity)
    (verifiedEmail : Option String) (actorId : String) :
    (imported p identity verifiedEmail scope roleKey actorId).Coherent where
  principalId _ _ := rfl
  bindingId _ _ := rfl
  identity _ _ := rfl
  grantId _ _ := rfl
  resolves _ := resolves_id
  fits row hrow := by
    rw [List.mem_singleton.mp hrow]
    exact hfits
  active := by simp [imported, activeGrant]
  lasting := by simp [imported, activeGrant]
  grantees := by simp [imported, activeGrant]
  governed := by simp [imported, activeGrant]

variable {b : Rows}

theorem invariant_of_insert (holds : Tables → Prop) (h : holds tables)
    (hinsert : b.insert tables = .ok tables')
    (hprincipal : ∀ row ∈ b.principals, ∀ tables tables', holds tables →
      ensurePrincipal (b.updatePrincipal row) row tables = .ok tables' → holds tables')
    (hbinding : ∀ row ∈ b.bindings, ∀ tables tables', holds tables →
      ensureBinding (b.updateBinding row) row tables = .ok tables' → holds tables')
    (hpolicy : ∀ scope ∈ b.scopes, ∀ tables tables', holds tables →
      ensurePolicy scope tables = .ok tables' → holds tables')
    (hgrant : ∀ row ∈ b.grants, ∀ tables tables', holds tables →
      insertGrant (b.updateGrant row) row tables = .ok tables' → holds tables') :
    holds tables' := by
  rw [Rows.insert] at hinsert
  simp only [bind_eq_ok] at hinsert
  obtain ⟨named, hnamed, bound, hbound, ruled, hruled, hgranted⟩ := hinsert
  have hnamed' : holds named := invariant_of_foldlM hprincipal h hnamed
  have hbound' : holds bound := invariant_of_foldlM hbinding hnamed' hbound
  have hruled' : holds ruled := invariant_of_foldlM hpolicy hbound' hruled
  exact invariant_of_foldlM hgrant hruled' hgranted

theorem wellformed_insert (hb : b.Coherent) (h : Wellformed tables)
    (hinsert : b.insert tables = .ok tables') : Wellformed tables' := by
  refine invariant_of_insert Wellformed h hinsert ?_ ?_ ?_ ?_
  · exact fun row _ _ _ h hensure => wellformed_ensurePrincipal h (hb.principalId row) hensure
  · exact fun _ _ _ _ h hensure => wellformed_ensureBinding h hensure
  · exact fun _ _ _ _ h hensure => wellformed_ensurePolicy h hensure
  · exact fun row hrow _ _ h hinsert =>
      wellformed_insertGrant h (hb.resolves row) (hb.lasting row hrow) hinsert

/-! ### When an insertion succeeds -/

def Rows.principalsAfter (b : Rows) (tables : Tables) : Option (List Principal) :=
  insertAll samePrincipal never b.updatePrincipal b.principals tables.principals

def Rows.bindingsAfter (b : Rows) (tables : Tables) : Option (List Binding) :=
  insertAll sameIdentity sameBindingId b.updateBinding b.bindings tables.bindings

def Rows.policiesAfter (b : Rows) (tables : Tables) : Option (List Policy) :=
  insertAll sameScope never (fun _ => id) (b.scopes.map firstPolicy) tables.policies

def Rows.grantsAfter (b : Rows) (tables : Tables) : Option (List Grant) :=
  insertAll sameActive sameGrantId b.updateGrant b.grants tables.grants

theorem principals_foldlM :
    b.principals.foldlM (fun tables row => ensurePrincipal (b.updatePrincipal row) row tables)
        tables = .ok tables' ↔
      ∃ principals, b.principalsAfter tables = some principals ∧
        tables' = { tables with principals } := by
  refine (foldlM_eq_ok samePrincipal never b.updatePrincipal
    (fun principals => { tables with principals }) (fun _ => True) fun row _ rows tables' => ?_).trans ?_
  · rw [ensurePrincipal_eq_ok, true_and]
  · simp only [implies_true, true_and]
    rfl

theorem bindings_foldlM :
    b.bindings.foldlM (fun tables row => ensureBinding (b.updateBinding row) row tables)
        tables = .ok tables' ↔
      ∃ bindings, b.bindingsAfter tables = some bindings ∧
        tables' = { tables with bindings } := by
  refine (foldlM_eq_ok sameIdentity sameBindingId b.updateBinding
    (fun bindings => { tables with bindings }) (fun _ => True) fun row _ rows tables' => ?_).trans ?_
  · rw [ensureBinding_eq_ok, true_and]
  · simp only [implies_true, true_and]
    rfl

theorem policies_foldlM :
    b.scopes.foldlM (fun tables scope => ensurePolicy scope tables) tables = .ok tables' ↔
      (∀ scope ∈ b.scopes, scope.Valid) ∧ ∃ policies, b.policiesAfter tables = some policies ∧
        tables' = { tables with policies } := by
  have hscopes : b.scopes.foldlM (fun tables scope => ensurePolicy scope tables) tables =
      (b.scopes.map firstPolicy).foldlM (fun tables row => ensurePolicy row.scope tables)
        tables := by
    rw [List.foldlM_map]
    rfl
  rw [hscopes]
  refine (foldlM_eq_ok sameScope never (fun _ => id)
    (fun policies => { tables with policies }) (fun row => row.scope.Valid) fun row hrow rows tables' => ?_).trans ?_
  · obtain ⟨scope, -, rfl⟩ := List.mem_map.mp hrow
    exact ensurePolicy_eq_ok
  · rw [List.forall_mem_map]
    rfl

theorem exists_principal (hb : b.Coherent) {principals : List Principal}
    (h : b.principalsAfter tables = some principals) :
    ∀ row ∈ b.principals, ∃ principal ∈ principals, principal.id = row.id := by
  intro row hrow
  have hpresent := present_of_insertAll h
    (fun row new old => by simp only [samePrincipal, hb.principalId]) (fun row _ => rfl) row hrow
  obtain ⟨principal, hmem, hid⟩ := exists_of_not_absent hpresent
  exact ⟨principal, hmem, hid.symm⟩

theorem exists_policy {policies : List Policy} (h : b.policiesAfter tables = some policies) :
    ∀ scope ∈ b.scopes, ∃ policy ∈ policies, policy.scope = scope := by
  intro scope hscope
  have hpresent := present_of_insertAll h (fun row new old => Iff.rfl) (fun row _ => rfl)
    (firstPolicy scope) (List.mem_map_of_mem hscope)
  obtain ⟨policy, hmem, hsame⟩ := exists_of_not_absent hpresent
  exact ⟨policy, hmem, hsame.symm⟩

theorem grants_foldlM (hb : b.Coherent)
    (hprincipals : ∀ row ∈ b.principals, ∃ principal ∈ tables.principals, principal.id = row.id)
    (hpolicies : ∀ scope ∈ b.scopes, ∃ policy ∈ tables.policies, policy.scope = scope) :
    b.grants.foldlM (fun tables row => insertGrant (b.updateGrant row) row tables) tables =
        .ok tables' ↔
      ∃ grants, b.grantsAfter tables = some grants ∧ tables' = { tables with grants } := by
  refine (foldlM_eq_ok sameActive sameGrantId b.updateGrant
    (fun grants => { tables with grants }) (fun _ => True) fun row hrow rows tables' => ?_).trans ?_
  · obtain ⟨principal, hprincipal, hid⟩ := hb.grantees row hrow
    obtain ⟨other, hother, hsame⟩ := hprincipals principal hprincipal
    rw [true_and]
    exact insertGrant_eq_ok_iff (hb.fits row hrow) ⟨other, hother, hsame.trans hid⟩
      (hpolicies row.scope (hb.governed row hrow))
  · simp only [implies_true, true_and]
    rfl

theorem insert_eq_ok (hb : b.Coherent) :
    b.insert tables = .ok tables' ↔
      (∀ scope ∈ b.scopes, scope.Valid) ∧ ∃ principals bindings policies grants,
        b.principalsAfter tables = some principals ∧ b.bindingsAfter tables = some bindings ∧
          b.policiesAfter tables = some policies ∧ b.grantsAfter tables = some grants ∧
          tables' = { tables with principals, bindings, policies, grants } := by
  rw [Rows.insert]
  simp only [bind_eq_ok, principals_foldlM, bindings_foldlM, policies_foldlM]
  have hgrants : ∀ {principals bindings policies}, b.principalsAfter tables = some principals →
      b.policiesAfter tables = some policies →
      (b.grants.foldlM (fun tables row => insertGrant (b.updateGrant row) row tables)
          { tables with principals, bindings, policies } = .ok tables' ↔
        ∃ grants, b.grantsAfter tables = some grants ∧
          tables' = { tables with principals, bindings, policies, grants }) :=
    fun hprincipals hpolicies =>
      grants_foldlM hb (exists_principal hb hprincipals) (exists_policy hpolicies)
  constructor
  · rintro ⟨_, ⟨principals, hprincipals, rfl⟩, _, ⟨bindings, hbindings, rfl⟩, _,
      ⟨hvalid, policies, hpolicies, rfl⟩, hinsert⟩
    obtain ⟨grants, hinserted, rfl⟩ := (hgrants hprincipals hpolicies).mp hinsert
    exact ⟨hvalid, principals, bindings, policies, grants, hprincipals, hbindings, hpolicies,
      hinserted, rfl⟩
  · rintro ⟨hvalid, principals, bindings, policies, grants, hprincipals, hbindings, hpolicies,
      hinserted, rfl⟩
    exact ⟨_, ⟨principals, hprincipals, rfl⟩, _, ⟨bindings, hbindings, rfl⟩, _,
      ⟨hvalid, policies, hpolicies, rfl⟩,
      (hgrants hprincipals hpolicies).mpr ⟨grants, hinserted, rfl⟩⟩

end MindscapeLocalCore.AccessControl.Bootstrap
