import MindscapeLocalCore.AccessControl.Runs
/-!
When the recovery, the backfill and the import go through. Their rows have ids that depend on
the arguments only, while the conflicts that they resolve are those of the identity and of the
active grant: a row of the same id that neither finds keeps them out.
-/

namespace MindscapeLocalCore.AccessControl.Recovery

open Bootstrap Repository Runs Schema Library.Guarded Library.UniqueInsert

variable {p : Platform} {tables tables' : Tables} {b : Rows}

/-! ### Errors -/

def Violation (error : AccessError) : Prop := ∃ violated, error = .integrity violated

theorem errorsIn_stored {α : Type} (result : Option (List α)) :
    ErrorsIn Violation (stored result) := by
  cases result with
  | none => exact errorsIn_error ⟨_, rfl⟩
  | some rows => exact errorsIn_ok rows

theorem errorsIn_insert : ErrorsIn Violation (b.insert tables) := by
  have hcheck : ∀ {c : Prop} [Decidable c] {violated : Constraint},
      ErrorsIn Violation (require c (.integrity violated)) :=
    errorsIn_require fun _ => ⟨_, rfl⟩
  rw [Rows.insert]
  refine errorsIn_bind (errorsIn_foldlM fun _ _ _ => ?_) fun _ _ => errorsIn_bind
    (errorsIn_foldlM fun _ _ _ => ?_) fun _ _ => errorsIn_bind
    (errorsIn_foldlM fun _ _ _ => ?_) fun _ _ => errorsIn_foldlM fun _ _ _ => ?_
  · exact errorsIn_bind (errorsIn_stored _) fun _ _ => errorsIn_ok _
  · exact errorsIn_bind (errorsIn_stored _) fun _ _ => errorsIn_ok _
  · exact errorsIn_bind hcheck fun _ _ => errorsIn_bind (errorsIn_stored _) fun _ _ =>
      errorsIn_ok _
  · exact errorsIn_bind hcheck fun _ _ => errorsIn_bind (errorsIn_stored _) fun _ _ =>
      errorsIn_bind hcheck fun _ _ => errorsIn_ok _

/-! ### When an insertion goes through -/

/-- The identities of the bindings and the principals and scopes of the grants tell the rows
apart, and a grant that was updated stays under further updates. -/
structure Rows.Keyed (b : Rows) : Prop where
  bindings : ∀ row ∈ b.bindings, ∀ other ∈ b.bindings, row.identity = other.identity → row = other
  grants : ∀ row ∈ b.grants, ∀ other ∈ b.grants, row.principalId = other.principalId →
    row.scope = other.scope → row = other
  updated : ∀ row ∈ b.grants, ∀ other ∈ b.grants, ∀ old,
    b.updateGrant row (b.updateGrant other old) = b.updateGrant other old
  inserted : ∀ row ∈ b.grants, ∀ other ∈ b.grants, b.updateGrant row other = other

def BindingFree (tables : Tables) (bindingId : String) (identity : VerifiedIdentity) : Prop :=
  (∀ binding ∈ tables.bindings, binding.identity ≠ identity) →
    ∀ binding ∈ tables.bindings, binding.id ≠ bindingId

def GrantFree (tables : Tables) (grantId principalId : String) (scope : Scope) : Prop :=
  (∀ grant ∈ tables.grants, ¬ grant.Active principalId scope) →
    ∀ grant ∈ tables.grants, grant.id ≠ grantId

theorem absent_binding {row : Binding} :
    Absent sameIdentity row tables.bindings ↔
      ∀ binding ∈ tables.bindings, binding.identity ≠ row.identity :=
  forall₂_congr fun _ _ => not_congr eq_comm

theorem absent_bindingId {row : Binding} :
    Absent sameBindingId row tables.bindings ↔
      ∀ binding ∈ tables.bindings, binding.id ≠ row.id :=
  forall₂_congr fun _ _ => not_congr eq_comm

theorem absent_active {row : Grant} (hactive : row.status = .active) :
    Absent sameActive row tables.grants ↔
      ∀ grant ∈ tables.grants, ¬ grant.Active row.principalId row.scope := by
  refine forall₂_congr fun grant _ => not_congr ⟨?_, ?_⟩
  · rintro ⟨-, hstatus, hprincipal, hscope⟩
    exact ⟨hstatus, hprincipal.symm, hscope.symm⟩
  · rintro ⟨hstatus, hprincipal, hscope⟩
    exact ⟨hactive, hstatus, hprincipal.symm, hscope.symm⟩

theorem absent_grantId {row : Grant} :
    Absent sameGrantId row tables.grants ↔ ∀ grant ∈ tables.grants, grant.id ≠ row.id :=
  forall₂_congr fun _ _ => not_congr eq_comm

theorem bindingsAfter_isSome (tables : Tables) (hb : b.Coherent) (hkeyed : Rows.Keyed b) :
    (b.bindingsAfter tables).isSome = true ↔
      ∀ row ∈ b.bindings, Absent sameIdentity row tables.bindings →
        Absent sameBindingId row tables.bindings ∧ ∀ other ∈ b.bindings,
          Absent sameIdentity other tables.bindings → row.id = other.id → row = other :=
  insertAll_isSome (fun row new old => by simp only [sameIdentity, hb.identity])
    (fun row new old => by simp only [sameBindingId, hb.bindingId]) (fun _ _ => Eq.symm)
    (fun _ _ => rfl) hkeyed.bindings

theorem sameActive_update (hb : b.Coherent) (row new old : Grant) :
    sameActive new (b.updateGrant row old) ↔ sameActive new old := by
  have hresolves := hb.resolves row
  simp only [sameActive, hresolves.status, hresolves.principalId, hresolves.scope]

theorem grantsAfter_isSome (tables : Tables) (hb : b.Coherent) (hkeyed : Rows.Keyed b) :
    (b.grantsAfter tables).isSome = true ↔
      ∀ row ∈ b.grants, Absent sameActive row tables.grants →
        Absent sameGrantId row tables.grants ∧ ∀ other ∈ b.grants,
          Absent sameActive other tables.grants → row.id = other.id → row = other :=
  insertAll_isSome (sameActive_update hb)
    (fun row new old => by simp only [sameGrantId, hb.grantId])
    (fun _ _ => Eq.symm)
    (fun row hrow => ⟨hb.active row hrow, hb.active row hrow, rfl, rfl⟩)
    (fun row hrow other hother hsame =>
      hkeyed.grants row hrow other hother hsame.2.2.1 hsame.2.2.2)

/-- What an insertion needs of the tables that it finds. -/
structure Rows.Unblocked (b : Rows) (tables : Tables) : Prop where
  scopes : ∀ scope ∈ b.scopes, scope.Valid
  bindings : ∀ row ∈ b.bindings, BindingFree tables row.id row.identity
  grants : ∀ row ∈ b.grants, GrantFree tables row.id row.principalId row.scope
  bindingIds : ∀ row ∈ b.bindings, ∀ other ∈ b.bindings,
    Absent sameIdentity row tables.bindings → Absent sameIdentity other tables.bindings →
      row.id = other.id → row = other
  grantIds : ∀ row ∈ b.grants, ∀ other ∈ b.grants,
    Absent sameActive row tables.grants → Absent sameActive other tables.grants →
      row.id = other.id → row = other

theorem insert_isOk (hb : b.Coherent) (hkeyed : Rows.Keyed b) :
    (∃ tables', b.insert tables = .ok tables') ↔ Rows.Unblocked b tables := by
  have hprincipals : (b.principalsAfter tables).isSome = true :=
    insertAll_isSome_of_never fun _ _ h => h
  have hpolicies : (b.policiesAfter tables).isSome = true :=
    insertAll_isSome_of_never fun _ _ h => h
  have hbindings := bindingsAfter_isSome tables hb hkeyed
  have hgrants := grantsAfter_isSome tables hb hkeyed
  constructor
  · rintro ⟨tables', hinsert⟩
    obtain ⟨hvalid, principals, bindings, policies, grants, -, hbound, -, hgranted, -⟩ :=
      (insert_eq_ok hb).mp hinsert
    have hbound' := hbindings.mp (Option.isSome_of_mem hbound)
    have hgranted' := hgrants.mp (Option.isSome_of_mem hgranted)
    refine ⟨hvalid, fun row hrow habsent => ?_, fun row hrow habsent => ?_, ?_, ?_⟩
    · exact absent_bindingId.mp (hbound' row hrow (absent_binding.mpr habsent)).1
    · exact absent_grantId.mp
        (hgranted' row hrow ((absent_active (hb.active row hrow)).mpr habsent)).1
    · exact fun row hrow other hother habsent => (hbound' row hrow habsent).2 other hother
    · exact fun row hrow other hother habsent => (hgranted' row hrow habsent).2 other hother
  · intro hunblocked
    obtain ⟨principals, hprincipals⟩ := Option.isSome_iff_exists.mp hprincipals
    obtain ⟨policies, hpolicies⟩ := Option.isSome_iff_exists.mp hpolicies
    obtain ⟨bindings, hbound⟩ := Option.isSome_iff_exists.mp <| hbindings.mpr
      fun row hrow habsent => ⟨absent_bindingId.mpr
        (hunblocked.bindings row hrow (absent_binding.mp habsent)), fun other hother =>
          hunblocked.bindingIds row hrow other hother habsent⟩
    obtain ⟨grants, hgranted⟩ := Option.isSome_iff_exists.mp <| hgrants.mpr
      fun row hrow habsent => ⟨absent_grantId.mpr (hunblocked.grants row hrow
        ((absent_active (hb.active row hrow)).mp habsent)), fun other hother =>
          hunblocked.grantIds row hrow other hother habsent⟩
    exact ⟨_, (insert_eq_ok hb).mpr ⟨hunblocked.scopes, principals, bindings, policies, grants,
      hprincipals, hbound, hpolicies, hgranted, rfl⟩⟩

theorem insert_again (hb : b.Coherent) (hkeyed : Rows.Keyed b)
    (hinsert : b.insert tables = .ok tables') :
    ∃ again, b.insert tables' = .ok again ∧ again.grants = tables'.grants := by
  obtain ⟨hvalid, principals, bindings, policies, grants, -, hbound, -, hgranted, rfl⟩ :=
    (insert_eq_ok hb).mp hinsert
  let inserted : Tables := { tables with principals, bindings, policies, grants }
  obtain ⟨principals', hprincipals'⟩ := Option.isSome_iff_exists.mp
    (insertAll_isSome_of_never fun _ _ h => h : (b.principalsAfter inserted).isSome = true)
  obtain ⟨policies', hpolicies'⟩ := Option.isSome_iff_exists.mp
    (insertAll_isSome_of_never fun _ _ h => h : (b.policiesAfter inserted).isSome = true)
  have hidentity : ∀ row new old, sameIdentity new (b.updateBinding row old) ↔
      sameIdentity new old := fun row new old => by simp only [sameIdentity, hb.identity]
  obtain ⟨bindings', hbindings'⟩ := Option.isSome_iff_exists.mp
    (insertAll_isSome_of_conflict hidentity
      (present_of_insertAll hbound hidentity fun _ _ => rfl) :
      (b.bindingsAfter inserted).isSome = true)
  have hgrants' : b.grantsAfter inserted = some grants :=
    insertAll_of_settled
      (present_of_insertAll hgranted (sameActive_update hb)
        fun row hrow => ⟨hb.active row hrow, hb.active row hrow, rfl, rfl⟩)
      (settled_of_insertAll hgranted hkeyed.updated hkeyed.inserted)
  exact ⟨_, (insert_eq_ok hb).mpr ⟨hvalid, principals', bindings', policies', grants,
    hprincipals', hbindings', hpolicies', hgrants', rfl⟩, rfl⟩

/-! ### The three operations -/

inductive Recovering
  | importVerifiedGrant (identity : VerifiedIdentity) (verifiedEmail : Option String)
      (scope : Scope) (roleKey : Role) (actorId : String)
  | ensureLocalRecoveryOwner (localUserId : String)
  | backfillWorkspaceOwners (actorId : String) (workspaces : List Workspace)

def Recovering.operation : Recovering → Operation
  | .importVerifiedGrant identity verifiedEmail scope roleKey actorId =>
      .importVerifiedGrant identity verifiedEmail scope roleKey actorId
  | .ensureLocalRecoveryOwner localUserId => .ensureLocalRecoveryOwner localUserId
  | .backfillWorkspaceOwners actorId workspaces => .backfillWorkspaceOwners actorId workspaces

structure Repeatable (p : Platform) (tables : Tables) (call : Call) : Prop where
  total : ∀ violated, perform p tables call ≠ .error (.integrity violated)
  again : ∀ violated, perform p (next p tables call) call ≠ .error (.integrity violated)
  grants : (next p (next p tables call) call).grants = (next p tables call).grants

def Ungranted (tables : Tables) (owner : Owner) : Prop :=
  ∀ grant ∈ tables.grants,
    ¬ grant.Active (localPrincipalId owner.ownerUserId) (workspace owner.workspaceId)

def ownerGrantId (p : Platform) (owner : Owner) : String :=
  p.md5 ("owner:" ++ owner.ownerUserId ++ ":" ++ owner.workspaceId)

/-- The ids of the rows are free, and the scopes can have a policy. -/
def Unblocked (p : Platform) (tables : Tables) : Recovering → Prop
  | .importVerifiedGrant identity _ scope roleKey _ => roleKey.Fits scope.scopeType →
      scope.Valid ∧ BindingFree tables (importedBindingId p identity) identity ∧
        GrantFree tables (importedGrantId p identity scope roleKey)
          (importedPrincipalId p identity) scope
  | .ensureLocalRecoveryOwner localUserId =>
      BindingFree tables ("local-binding-" ++ localUserId) (localIdentity localUserId) ∧
        GrantFree tables ("local-grant-" ++ localUserId) (localPrincipalId localUserId) localCore
  | .backfillWorkspaceOwners _ workspaces =>
      (∀ owner ∈ owners workspaces, owner.workspaceId ≠ "" ∧
        BindingFree tables ("local-binding-" ++ owner.ownerUserId)
          (localIdentity owner.ownerUserId) ∧
        GrantFree tables (ownerGrantId p owner) (localPrincipalId owner.ownerUserId)
          (workspace owner.workspaceId)) ∧
      ∀ owner ∈ owners workspaces, ∀ other ∈ owners workspaces, Ungranted tables owner →
        Ungranted tables other → ownerGrantId p owner = ownerGrantId p other → owner = other

theorem owner_eq {owner other : Owner}
    (hprincipal : localPrincipalId owner.ownerUserId = localPrincipalId other.ownerUserId)
    (hscope : workspace owner.workspaceId = workspace other.workspaceId) : owner = other := by
  obtain ⟨workspaceId, ownerUserId⟩ := owner
  obtain ⟨workspaceId', ownerUserId'⟩ := other
  obtain rfl : ownerUserId = ownerUserId' := (String.append_right_inj _).mp hprincipal
  obtain rfl : workspaceId = workspaceId' := congrArg Scope.scopeId hscope
  rfl

theorem keyed_recovery (localUserId : String) : Rows.Keyed (recovery localUserId) where
  bindings := by simp [recovery]
  grants := by simp [recovery]
  updated := by
    intro row hrow other hother old
    rw [List.mem_singleton.mp hrow, List.mem_singleton.mp hother]
    rfl
  inserted := by
    intro row hrow other hother
    rw [List.mem_singleton.mp hrow, List.mem_singleton.mp hother]
    rfl

theorem keyed_imported (identity : VerifiedIdentity) (verifiedEmail : Option String)
    (scope : Scope) (roleKey : Role) (actorId : String) :
    Rows.Keyed (imported p identity verifiedEmail scope roleKey actorId) where
  bindings := by simp [imported]
  grants := by simp [imported]
  updated _ _ _ _ _ := rfl
  inserted _ _ _ _ := rfl

theorem keyed_backfill (actorId : String) (workspaces : List Workspace) :
    Rows.Keyed (backfill p actorId workspaces) where
  bindings := by
    intro row hrow other hother hidentity
    obtain ⟨localUserId, -, rfl⟩ := List.mem_map.mp hrow
    obtain ⟨localUserId', -, rfl⟩ := List.mem_map.mp hother
    exact congrArg localBinding (congrArg VerifiedIdentity.subject hidentity)
  grants := by
    intro row hrow other hother hprincipal hscope
    obtain ⟨owner, -, rfl⟩ := List.mem_map.mp hrow
    obtain ⟨owner', -, rfl⟩ := List.mem_map.mp hother
    exact congrArg (ownerGrant p actorId) (owner_eq hprincipal hscope)
  updated _ _ _ _ _ := rfl
  inserted _ _ _ _ := rfl

theorem repeatable_insert {call : Call} (hb : b.Coherent) (hkeyed : Rows.Keyed b)
    (hperform : ∀ tables, perform p tables call = b.insert tables) :
    Repeatable p tables call ↔ Rows.Unblocked b tables := by
  rw [← insert_isOk hb hkeyed]
  constructor
  · intro hrepeatable
    cases hinsert : b.insert tables with
    | ok tables' => exact ⟨tables', rfl⟩
    | error error =>
        obtain ⟨violated, rfl⟩ := errorsIn_insert error hinsert
        exact absurd ((hperform tables).trans hinsert) (hrepeatable.total violated)
  · rintro ⟨tables', hinsert⟩
    obtain ⟨again, hagain, hgrants⟩ := insert_again hb hkeyed hinsert
    have hfirst := (hperform tables).trans hinsert
    have hsecond := (hperform tables').trans hagain
    have hnext := next_of_perform hfirst
    refine ⟨fun violated => ?_, fun violated => ?_, ?_⟩
    · rw [hfirst]
      exact fun h => nomatch h
    · rw [hnext, hsecond]
      exact fun h => nomatch h
    · rw [hnext, next_of_perform hsecond, hgrants]

theorem unblocked_recovery {localUserId : String} :
    Rows.Unblocked (recovery localUserId) tables ↔
      Unblocked p tables (.ensureLocalRecoveryOwner localUserId) := by
  constructor
  · intro h
    exact ⟨h.bindings _ (List.mem_singleton_self _), h.grants _ (List.mem_singleton_self _)⟩
  · rintro ⟨hbinding, hgrant⟩
    refine ⟨fun scope hscope => ?_, fun row hrow => ?_, fun row hrow => ?_,
      fun row hrow other hother _ _ _ => ?_, fun row hrow other hother _ _ _ => ?_⟩
    · rw [List.mem_singleton.mp hscope]
      rfl
    · rw [List.mem_singleton.mp hrow]
      exact hbinding
    · rw [List.mem_singleton.mp hrow]
      exact hgrant
    · rw [List.mem_singleton.mp hrow, List.mem_singleton.mp hother]
    · rw [List.mem_singleton.mp hrow, List.mem_singleton.mp hother]

theorem unblocked_imported {identity : VerifiedIdentity} {verifiedEmail : Option String}
    {scope : Scope} {roleKey : Role} {actorId : String} (hfits : roleKey.Fits scope.scopeType) :
    Rows.Unblocked (imported p identity verifiedEmail scope roleKey actorId) tables ↔
      Unblocked p tables (.importVerifiedGrant identity verifiedEmail scope roleKey actorId) := by
  constructor
  · intro h _
    exact ⟨h.scopes _ (List.mem_singleton_self _), h.bindings _ (List.mem_singleton_self _),
      h.grants _ (List.mem_singleton_self _)⟩
  · intro h
    obtain ⟨hvalid, hbinding, hgrant⟩ := h hfits
    refine ⟨fun scope hscope => ?_, fun row hrow => ?_, fun row hrow => ?_,
      fun row hrow other hother _ _ _ => ?_, fun row hrow other hother _ _ _ => ?_⟩
    · rw [List.mem_singleton.mp hscope]
      exact hvalid
    · rw [List.mem_singleton.mp hrow]
      exact hbinding
    · rw [List.mem_singleton.mp hrow]
      exact hgrant
    · rw [List.mem_singleton.mp hrow, List.mem_singleton.mp hother]
    · rw [List.mem_singleton.mp hrow, List.mem_singleton.mp hother]

theorem unblocked_backfill {actorId : String} {workspaces : List Workspace} :
    Rows.Unblocked (backfill p actorId workspaces) tables ↔
      Unblocked p tables (.backfillWorkspaceOwners actorId workspaces) := by
  have huser : ∀ {owner}, owner ∈ owners workspaces →
      localBinding owner.ownerUserId ∈ (backfill p actorId workspaces).bindings :=
    fun howner => List.mem_map_of_mem (List.mem_dedup.mpr (List.mem_map_of_mem howner))
  have habsent : ∀ {owner}, Absent sameActive (ownerGrant p actorId owner) tables.grants ↔
      Ungranted tables owner := absent_active rfl
  constructor
  · intro h
    refine ⟨fun owner howner => ⟨h.scopes _ (List.mem_map_of_mem howner),
      h.bindings _ (huser howner), h.grants _ (List.mem_map_of_mem howner)⟩, ?_⟩
    intro owner howner other hother hmissing hmissing' hid
    have hsame := h.grantIds _ (List.mem_map_of_mem howner) _ (List.mem_map_of_mem hother)
      (habsent.mpr hmissing) (habsent.mpr hmissing') hid
    exact owner_eq (congrArg Grant.principalId hsame) (congrArg Grant.scope hsame)
  · rintro ⟨howners, hids⟩
    refine ⟨fun scope hscope => ?_, fun row hrow => ?_, fun row hrow => ?_,
      fun row hrow other hother _ _ hid => ?_, fun row hrow other hother hmissing hmissing' hid => ?_⟩
    · obtain ⟨owner, howner, rfl⟩ := List.mem_map.mp hscope
      exact (howners owner howner).1
    · obtain ⟨localUserId, huserId, rfl⟩ := List.mem_map.mp hrow
      obtain ⟨owner, howner, rfl⟩ := List.mem_map.mp (List.mem_dedup.mp huserId)
      exact (howners owner howner).2.1
    · obtain ⟨owner, howner, rfl⟩ := List.mem_map.mp hrow
      exact (howners owner howner).2.2
    · obtain ⟨localUserId, -, rfl⟩ := List.mem_map.mp hrow
      obtain ⟨localUserId', -, rfl⟩ := List.mem_map.mp hother
      exact congrArg localBinding ((String.append_right_inj _).mp hid)
    · obtain ⟨owner, howner, rfl⟩ := List.mem_map.mp hrow
      obtain ⟨owner', howner', rfl⟩ := List.mem_map.mp hother
      exact congrArg (ownerGrant p actorId) (hids owner howner owner' howner'
        (habsent.mp hmissing) (habsent.mp hmissing') hid)

theorem perform_importVerifiedGrant_eq {identity : VerifiedIdentity}
    {verifiedEmail : Option String} {now : Timestamp} {scope : Scope} {roleKey : Role}
    {actorId : String} :
    perform p tables ⟨now, .importVerifiedGrant identity verifiedEmail scope roleKey actorId⟩ =
      if roleKey.Fits scope.scopeType then
        (imported p identity verifiedEmail scope roleKey actorId).insert tables
      else .error .roleScopeMismatch := by
  simp only [perform]
  rw [importGrant_eq, require]
  split
  · rw [ok_bind]
    cases (imported p identity verifiedEmail scope roleKey actorId).insert tables <;> rfl
  · rfl

/-- After every run, a recovery, a backfill or an import goes through and can be repeated
exactly where the ids of its rows are free. -/
theorem repeatable_iff (calls : List Call) (now : Timestamp) (recovering : Recovering) :
    Repeatable p (after p calls) ⟨now, recovering.operation⟩ ↔
      Unblocked p (after p calls) recovering := by
  cases recovering with
  | importVerifiedGrant identity verifiedEmail scope roleKey actorId =>
      by_cases hfits : roleKey.Fits scope.scopeType
      · rw [← unblocked_imported hfits]
        refine repeatable_insert (coherent_imported hfits identity verifiedEmail actorId)
          (keyed_imported identity verifiedEmail scope roleKey actorId) fun tables => ?_
        exact perform_importVerifiedGrant_eq.trans (if_pos hfits)
      · have hrefused : ∀ tables, perform p tables ⟨now, .importVerifiedGrant identity
            verifiedEmail scope roleKey actorId⟩ = .error .roleScopeMismatch :=
          fun tables => perform_importVerifiedGrant_eq.trans (if_neg hfits)
        refine iff_of_true ⟨fun violated => ?_, fun violated => ?_, ?_⟩
          fun h => absurd h hfits
        · rw [Recovering.operation, hrefused]
          exact fun h => nomatch h
        · rw [Recovering.operation, hrefused]
          exact fun h => nomatch h
        · rw [Recovering.operation, next, hrefused]
  | ensureLocalRecoveryOwner localUserId =>
      exact (repeatable_insert (coherent_recovery localUserId) (keyed_recovery localUserId)
        fun _ => perform_ensureLocalRecoveryOwner).trans unblocked_recovery
  | backfillWorkspaceOwners actorId workspaces =>
      exact (repeatable_insert (coherent_backfill actorId workspaces)
        (keyed_backfill actorId workspaces) fun _ => perform_backfillWorkspaceOwners).trans
        unblocked_backfill

/-! ### A recovery after its grant was revoked -/

def recoveredAndRevoked : List Call :=
  [⟨1, .ensureLocalRecoveryOwner "u"⟩, ⟨2, .ensureLocalRecoveryOwner "v"⟩,
   ⟨3, .revokeGrant "local-u" localCore "local-v" 1⟩]

theorem recovery_after_revocation_fails :
    ¬ Repeatable ⟨id, id, id⟩ (after ⟨id, id, id⟩ recoveredAndRevoked)
      ⟨4, .ensureLocalRecoveryOwner "u"⟩ := by
  intro h
  exact h.total .unique rfl

end MindscapeLocalCore.AccessControl.Recovery
