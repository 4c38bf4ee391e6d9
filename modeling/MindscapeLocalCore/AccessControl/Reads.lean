import Mathlib.Data.List.Sort
import MindscapeLocalCore.AccessControl.Runs
/-!
The readers of the access tables: the roles of an identity in a workspace, the workspaces
that an identity may enter, and the identities that may enter a workspace. Each of them is
one statement, so that it reads one state of the tables at one time.
-/

namespace MindscapeLocalCore.AccessControl.Reads

open Bootstrap Repository Runs Schema Writes MindscapeLocalCore.Library Library.UniqueInsert

/-! ### Conditions of the statements -/

def Tables.PrincipalActive (tables : Tables) (principalId : String) : Prop :=
  ∃ principal ∈ tables.principals, principal.id = principalId ∧ principal.status = .active

instance (tables : Tables) (principalId : String) :
    Decidable (Tables.PrincipalActive tables principalId) :=
  inferInstanceAs (Decidable (∃ principal ∈ tables.principals, _))

def Grant.Effective (now : Timestamp) (grant : Grant) : Prop :=
  grant.status = .active ∧ Schema.Grant.Unexpired now grant

instance (now : Timestamp) (grant : Grant) : Decidable (Grant.Effective now grant) :=
  inferInstanceAs (Decidable (_ ∧ _))

def InScope (workspaceId : Option String) (scope : Scope) : Prop :=
  scope = localCore ∨ ∃ id ∈ workspaceId, scope = workspace id

instance (workspaceId : Option String) (scope : Scope) : Decidable (InScope workspaceId scope) :=
  inferInstanceAs (Decidable (_ ∨ ∃ id ∈ workspaceId, _))

/-- `ORDER BY role_key`. -/
def orderedRoles (roles : List Role) : List Role :=
  roles.mergeSort fun role other => decide (Role.key role ≤ Role.key other)

/-! ### `resolve_effective_access` -/

/-- The binding of `_PRINCIPAL_CTE`. -/
def boundIdentity (identity : VerifiedIdentity) (tables : Tables) : Option Binding :=
  tables.bindings.find? fun binding =>
    decide (binding.identity = identity ∧ binding.status = .active ∧
      Tables.PrincipalActive tables binding.principalId)

structure EffectiveAccess where
  principalId : Option String
  roles : List Role
  scopeRevision : ℤ

/-- The `effective_grants` of a principal. -/
def effectiveGrants (now : Timestamp) (workspaceId : Option String) (tables : Tables)
    (principalId : String) : List Grant :=
  tables.grants.filter fun grant =>
    decide (grant.principalId = principalId ∧ Grant.Effective now grant ∧
      InScope workspaceId grant.scope)

def resolveEffectiveAccess (now : Timestamp) (identity : VerifiedIdentity)
    (workspaceId : Option String) (tables : Tables) : EffectiveAccess where
  principalId := (boundIdentity identity tables).map Binding.principalId
  roles := match boundIdentity identity tables with
    | none => []
    | some binding =>
        orderedRoles ((effectiveGrants now workspaceId tables binding.principalId).map
          Grant.roleKey)
  scopeRevision := tables.revision (workspaceId.elim localCore workspace)

/-! ### `list_authorized_workspace_ids` -/

/-- The columns of `workspaces` that are read. -/
structure ListedWorkspace where
  id : String
  updatedAt : Option Timestamp

/-- `ORDER BY workspace.updated_at DESC, workspace.id`: a null comes first. -/
def listedBefore (row other : ListedWorkspace) : Bool :=
  match row.updatedAt, other.updatedAt with
  | none, some _ => true
  | some _, none => false
  | none, none => decide (row.id ≤ other.id)
  | some time, some time' =>
      decide (time' < time) || (decide (time = time') && decide (row.id ≤ other.id))

def Granted (now : Timestamp) (tables : Tables) (identity : VerifiedIdentity)
    (scope : Scope) : Prop :=
  ∃ binding ∈ boundIdentity identity tables, ∃ grant ∈ tables.grants,
    grant.principalId = binding.principalId ∧ grant.scope = scope ∧ Grant.Effective now grant

instance (now : Timestamp) (tables : Tables) (identity : VerifiedIdentity) (scope : Scope) :
    Decidable (Granted now tables identity scope) :=
  inferInstanceAs (Decidable (∃ binding ∈ boundIdentity identity tables, _))

def listAuthorizedWorkspaceIds (now : Timestamp) (identity : VerifiedIdentity) (limit : ℕ)
    (workspaces : List ListedWorkspace) (tables : Tables) : List String :=
  (((workspaces.filter fun row =>
    decide (Granted now tables identity localCore ∨
      Granted now tables identity (workspace row.id))).mergeSort listedBefore).take limit).map
    ListedWorkspace.id

/-! ### `read_remote_identity_projection` -/

/-- The `eligible_grants` of a workspace: a row for each pair of a grant and its principal. -/
def eligibleGrants (now : Timestamp) (workspaceId : String) (tables : Tables) : List Grant :=
  tables.grants.flatMap fun grant =>
    if Grant.Effective now grant ∧ InScope (some workspaceId) grant.scope then
      (tables.principals.filter fun principal =>
        decide (principal.id = grant.principalId ∧ principal.status = .active)).map fun _ => grant
    else []

/-- `GROUP BY`. -/
structure IdentityGroup where
  identity : VerifiedIdentity
  verifiedEmail : Option String
  principalId : String
deriving DecidableEq

def groupOf (binding : Binding) : IdentityGroup :=
  ⟨binding.identity, binding.verifiedEmail, binding.principalId⟩

/-- `eligible_grants` joined with the active bindings of their principals. -/
def joinedGrants (now : Timestamp) (workspaceId : String) (tables : Tables) :
    List (IdentityGroup × Grant) :=
  (eligibleGrants now workspaceId tables).flatMap fun grant =>
    (tables.bindings.filter fun binding =>
      decide (binding.principalId = grant.principalId ∧ binding.status = .active)).map
      fun binding => (groupOf binding, grant)

structure RemoteIdentity where
  group : IdentityGroup
  roleKeys : List Role
  globalAccess : Bool

def remoteIdentity (joined : List (IdentityGroup × Grant)) (group : IdentityGroup) :
    RemoteIdentity :=
  let grants := (joined.filter fun row => decide (row.1 = group)).map Prod.snd
  { group
    roleKeys := orderedRoles (grants.map Grant.roleKey).dedup
    globalAccess := grants.any fun grant => decide (grant.scope.scopeType = .localCore) }

/-- `ORDER BY issuer, subject`. -/
def remoteBefore (row other : RemoteIdentity) : Bool :=
  decide (row.group.identity.issuer < other.group.identity.issuer) ||
    decide (row.group.identity.issuer = other.group.identity.issuer ∧
      row.group.identity.subject ≤ other.group.identity.subject)

structure RemoteProjection where
  identities : List RemoteIdentity
  revision : ℤ

def readRemoteIdentityProjection (now : Timestamp) (workspaceId : String) (tables : Tables) :
    RemoteProjection where
  identities :=
    let joined := joinedGrants now workspaceId tables
    (((joined.map Prod.fst).dedup).map (remoteIdentity joined)).mergeSort remoteBefore
  revision := tables.revision (workspace workspaceId)

/-! ### What the readers find -/

variable {now : Timestamp} {tables : Tables} {identity : VerifiedIdentity} {binding : Binding}
  {grant : Grant} {role : Role} {workspaceId : String} {group : IdentityGroup}

theorem mem_orderedRoles {roles : List Role} : role ∈ orderedRoles roles ↔ role ∈ roles :=
  List.mem_mergeSort

theorem boundIdentity_eq_some (h : Apart sameIdentity tables.bindings) :
    boundIdentity identity tables = some binding ↔
      binding ∈ tables.bindings ∧ binding.identity = identity ∧ binding.status = .active ∧
        Tables.PrincipalActive tables binding.principalId := by
  constructor
  · intro hfound
    have hfits := List.find?_some hfound
    exact ⟨List.mem_of_find?_eq_some hfound, of_decide_eq_true hfits⟩
  · rintro ⟨hmem, hfits⟩
    cases hfound : boundIdentity identity tables with
    | none =>
        exact absurd (decide_eq_true hfits) (List.find?_eq_none.mp hfound binding hmem)
    | some other =>
        have hother := List.find?_some hfound
        refine congrArg some (eq_of_apart h (fun _ _ => Eq.symm)
          (List.mem_of_find?_eq_some hfound) hmem ?_)
        exact (of_decide_eq_true hother).1.trans hfits.1.symm

theorem mem_roles {workspaceId : Option String} :
    role ∈ (resolveEffectiveAccess now identity workspaceId tables).roles ↔
      ∃ binding ∈ boundIdentity identity tables, ∃ grant ∈ tables.grants,
        grant.principalId = binding.principalId ∧ Grant.Effective now grant ∧
          InScope workspaceId grant.scope ∧ grant.roleKey = role := by
  rw [resolveEffectiveAccess]
  cases boundIdentity identity tables with
  | none => simp
  | some binding =>
      simp only [mem_orderedRoles, List.mem_map, effectiveGrants, List.mem_filter,
        decide_eq_true_eq, Option.mem_some_iff, exists_eq_left', and_assoc]

theorem mem_eligibleGrants :
    grant ∈ eligibleGrants now workspaceId tables ↔
      grant ∈ tables.grants ∧ Grant.Effective now grant ∧
        InScope (some workspaceId) grant.scope ∧
        Tables.PrincipalActive tables grant.principalId := by
  rw [eligibleGrants, List.mem_flatMap]
  constructor
  · rintro ⟨source, hsource, hmem⟩
    split at hmem
    · rename_i hfits
      obtain ⟨principal, hprincipal, rfl⟩ := List.mem_map.mp hmem
      obtain ⟨hrow, hjoin⟩ := List.mem_filter.mp hprincipal
      exact ⟨hsource, hfits.1, hfits.2, principal, hrow, of_decide_eq_true hjoin⟩
    · cases hmem
  · rintro ⟨hsource, heffective, hscope, principal, hrow, hjoin⟩
    refine ⟨grant, hsource, ?_⟩
    rw [if_pos ⟨heffective, hscope⟩]
    exact List.mem_map.mpr
      ⟨principal, List.mem_filter.mpr ⟨hrow, decide_eq_true hjoin⟩, rfl⟩

theorem mem_joinedGrants (h : Apart sameIdentity tables.bindings) :
    (group, grant) ∈ joinedGrants now workspaceId tables ↔
      ∃ binding ∈ boundIdentity group.identity tables, groupOf binding = group ∧
        grant ∈ tables.grants ∧ grant.principalId = binding.principalId ∧
          Grant.Effective now grant ∧ InScope (some workspaceId) grant.scope := by
  simp only [joinedGrants, List.mem_flatMap, mem_eligibleGrants, List.mem_map, List.mem_filter,
    decide_eq_true_eq, Prod.mk.injEq, Option.mem_def]
  constructor
  · rintro ⟨source, ⟨hsource, heffective, hscope, hactive⟩, binding,
      ⟨hbinding, hprincipal, hstatus⟩, rfl, rfl⟩
    refine ⟨binding, (boundIdentity_eq_some h).mpr ⟨hbinding, rfl, hstatus, ?_⟩, rfl, hsource,
      hprincipal.symm, heffective, hscope⟩
    rw [hprincipal]
    exact hactive
  · rintro ⟨binding, hbound, rfl, hsource, hprincipal, heffective, hscope⟩
    obtain ⟨hbinding, -, hstatus, hactive⟩ := (boundIdentity_eq_some h).mp hbound
    rw [← hprincipal] at hactive
    exact ⟨grant, ⟨hsource, heffective, hscope, hactive⟩, binding,
      ⟨hbinding, hprincipal.symm, hstatus⟩, rfl, rfl⟩

theorem mem_identities {entry : RemoteIdentity} :
    entry ∈ (readRemoteIdentityProjection now workspaceId tables).identities ↔
      (∃ grant, (entry.group, grant) ∈ joinedGrants now workspaceId tables) ∧
        entry = remoteIdentity (joinedGrants now workspaceId tables) entry.group := by
  simp only [readRemoteIdentityProjection, List.mem_mergeSort, List.mem_map, List.mem_dedup,
    Prod.exists, exists_and_right, exists_eq_right]
  constructor
  · rintro ⟨group, hgroup, rfl⟩
    exact ⟨hgroup, rfl⟩
  · rintro ⟨hgroup, hentry⟩
    exact ⟨entry.group, hgroup, hentry.symm⟩

theorem mem_roleKeys {joined : List (IdentityGroup × Grant)} :
    role ∈ (remoteIdentity joined group).roleKeys ↔
      ∃ grant, (group, grant) ∈ joined ∧ grant.roleKey = role := by
  simp only [remoteIdentity, mem_orderedRoles, List.mem_dedup, List.mem_map, List.mem_filter,
    decide_eq_true_eq, Prod.exists]
  constructor
  · rintro ⟨grant, ⟨other, same, ⟨hmem, rfl⟩, rfl⟩, hrole⟩
    exact ⟨same, hmem, hrole⟩
  · rintro ⟨grant, hmem, hrole⟩
    exact ⟨grant, ⟨group, grant, ⟨hmem, rfl⟩, rfl⟩, hrole⟩

theorem globalAccess_eq_true {joined : List (IdentityGroup × Grant)} :
    (remoteIdentity joined group).globalAccess = true ↔
      ∃ grant, (group, grant) ∈ joined ∧ grant.scope.scopeType = .localCore := by
  simp only [remoteIdentity, List.any_eq_true, List.mem_map, List.mem_filter, decide_eq_true_eq,
    Prod.exists]
  constructor
  · rintro ⟨grant, ⟨other, same, ⟨hmem, rfl⟩, rfl⟩, hscope⟩
    exact ⟨same, hmem, hscope⟩
  · rintro ⟨grant, hmem, hscope⟩
    exact ⟨grant, ⟨group, grant, ⟨hmem, rfl⟩, rfl⟩, hscope⟩

theorem mem_listAuthorizedWorkspaceIds {workspaces : List ListedWorkspace} {limit : ℕ}
    (hlimit : workspaces.length ≤ limit) :
    workspaceId ∈ listAuthorizedWorkspaceIds now identity limit workspaces tables ↔
      (∃ row ∈ workspaces, row.id = workspaceId) ∧
        (Granted now tables identity localCore ∨
          Granted now tables identity (workspace workspaceId)) := by
  have hall : ∀ rows : List ListedWorkspace, rows.length ≤ workspaces.length →
      (rows.mergeSort listedBefore).take limit = rows.mergeSort listedBefore := by
    intro rows hrows
    refine List.take_of_length_le ?_
    rw [List.length_mergeSort]
    exact hrows.trans hlimit
  rw [listAuthorizedWorkspaceIds, hall _ (List.length_filter_le ..)]
  simp only [List.mem_map, List.mem_mergeSort, List.mem_filter, decide_eq_true_eq]
  constructor
  · rintro ⟨row, ⟨hrow, hgranted⟩, rfl⟩
    exact ⟨⟨row, hrow, rfl⟩, hgranted⟩
  · rintro ⟨⟨row, hrow, rfl⟩, hgranted⟩
    exact ⟨row, ⟨hrow, hgranted⟩, rfl⟩

/-! ### The readers agree -/

/-- What the three readers say of an identity and a workspace is the same. -/
structure Agree (now : Timestamp) (tables : Tables) (workspaces : List ListedWorkspace)
    (identity : VerifiedIdentity) (workspaceId : String) : Prop where
  listed : ∀ limit, workspaces.length ≤ limit →
    (workspaceId ∈ listAuthorizedWorkspaceIds now identity limit workspaces tables ↔
      (resolveEffectiveAccess now identity (some workspaceId) tables).roles ≠ [])
  projected : (∃ entry ∈ (readRemoteIdentityProjection now workspaceId tables).identities,
      entry.group.identity = identity) ↔
    (resolveEffectiveAccess now identity (some workspaceId) tables).roles ≠ []
  once : ∀ entry ∈ (readRemoteIdentityProjection now workspaceId tables).identities,
    ∀ other ∈ (readRemoteIdentityProjection now workspaceId tables).identities,
      entry.group.identity = other.group.identity → entry = other
  roleKeys : ∀ entry ∈ (readRemoteIdentityProjection now workspaceId tables).identities,
    entry.group.identity = identity → ∀ role, role ∈ entry.roleKeys ↔
      role ∈ (resolveEffectiveAccess now identity (some workspaceId) tables).roles
  globalAccess : ∀ entry ∈ (readRemoteIdentityProjection now workspaceId tables).identities,
    entry.group.identity = identity →
      (entry.globalAccess = true ↔ Granted now tables identity localCore)

theorem roles_ne_nil :
    (resolveEffectiveAccess now identity (some workspaceId) tables).roles ≠ [] ↔
      Granted now tables identity localCore ∨
        Granted now tables identity (workspace workspaceId) := by
  rw [Ne, List.eq_nil_iff_forall_not_mem, not_forall_not]
  simp only [mem_roles, InScope, Granted, Option.mem_some_iff, exists_eq_left']
  constructor
  · rintro ⟨role, binding, hbound, grant, hgrant, hprincipal, heffective, hscope | hscope, -⟩
    · exact .inl ⟨binding, hbound, grant, hgrant, hprincipal, hscope, heffective⟩
    · exact .inr ⟨binding, hbound, grant, hgrant, hprincipal, hscope, heffective⟩
  · rintro (⟨binding, hbound, grant, hgrant, hprincipal, hscope, heffective⟩ |
      ⟨binding, hbound, grant, hgrant, hprincipal, hscope, heffective⟩)
    · exact ⟨_, binding, hbound, grant, hgrant, hprincipal, heffective, .inl hscope, rfl⟩
    · exact ⟨_, binding, hbound, grant, hgrant, hprincipal, heffective, .inr hscope, rfl⟩

theorem exists_joined_iff (h : Apart sameIdentity tables.bindings) (holds : Grant → Prop) :
    (∃ group grant, group.identity = identity ∧
        (group, grant) ∈ joinedGrants now workspaceId tables ∧ holds grant) ↔
      ∃ binding ∈ boundIdentity identity tables, ∃ grant ∈ tables.grants,
        grant.principalId = binding.principalId ∧ Grant.Effective now grant ∧
          InScope (some workspaceId) grant.scope ∧ holds grant := by
  simp only [mem_joinedGrants h]
  constructor
  · rintro ⟨group, grant, rfl, ⟨binding, hbound, -, hgrant, hprincipal, heffective, hscope⟩,
      hholds⟩
    exact ⟨binding, hbound, grant, hgrant, hprincipal, heffective, hscope, hholds⟩
  · rintro ⟨binding, hbound, grant, hgrant, hprincipal, heffective, hscope, hholds⟩
    have hidentity : (groupOf binding).identity = identity :=
      ((boundIdentity_eq_some h).mp hbound).2.1
    refine ⟨groupOf binding, grant, hidentity, ⟨binding, ?_, rfl, hgrant, hprincipal, heffective,
      hscope⟩, hholds⟩
    rw [hidentity]
    exact hbound

theorem group_eq_of_joined (h : Apart sameIdentity tables.bindings) {other : IdentityGroup}
    {grant' : Grant} (hfirst : (group, grant) ∈ joinedGrants now workspaceId tables)
    (hsecond : (other, grant') ∈ joinedGrants now workspaceId tables)
    (hidentity : group.identity = other.identity) : group = other := by
  obtain ⟨binding, hbound, rfl, -⟩ := (mem_joinedGrants h).mp hfirst
  obtain ⟨binding', hbound', rfl, -⟩ := (mem_joinedGrants h).mp hsecond
  rw [hidentity] at hbound
  rw [Option.mem_unique hbound hbound']

theorem agree_of_apart (h : Apart sameIdentity tables.bindings) {workspaces : List ListedWorkspace}
    (hworkspace : ∃ row ∈ workspaces, row.id = workspaceId) (identity : VerifiedIdentity) :
    Agree now tables workspaces identity workspaceId where
  listed limit hlimit := by
    rw [mem_listAuthorizedWorkspaceIds hlimit, roles_ne_nil, and_iff_right hworkspace]
  projected := by
    rw [Ne, List.eq_nil_iff_forall_not_mem, not_forall_not]
    simp only [mem_roles]
    constructor
    · rintro ⟨entry, hentry, rfl⟩
      obtain ⟨⟨grant, hjoined⟩, -⟩ := mem_identities.mp hentry
      obtain ⟨binding, hbound, other, hgrant, hprincipal, heffective, hscope, -⟩ :=
        (exists_joined_iff h fun _ => True).mp ⟨_, grant, rfl, hjoined, trivial⟩
      exact ⟨_, binding, hbound, other, hgrant, hprincipal, heffective, hscope, rfl⟩
    · rintro ⟨role, binding, hbound, grant, hgrant, hprincipal, heffective, hscope, -⟩
      obtain ⟨group, other, hidentity, hjoined, -⟩ := (exists_joined_iff h fun _ => True).mpr
        ⟨binding, hbound, grant, hgrant, hprincipal, heffective, hscope, trivial⟩
      exact ⟨remoteIdentity (joinedGrants now workspaceId tables) group,
        mem_identities.mpr ⟨⟨other, hjoined⟩, rfl⟩, hidentity⟩
  once entry hentry other hother hidentity := by
    obtain ⟨⟨grant, hjoined⟩, heq⟩ := mem_identities.mp hentry
    obtain ⟨⟨grant', hjoined'⟩, heq'⟩ := mem_identities.mp hother
    rw [heq, heq', group_eq_of_joined h hjoined hjoined' hidentity]
  roleKeys entry hentry hidentity role := by
    obtain ⟨⟨grant, hjoined⟩, heq⟩ := mem_identities.mp hentry
    rw [heq, mem_roleKeys, mem_roles]
    subst hidentity
    refine Iff.trans ?_ (exists_joined_iff h fun grant => grant.roleKey = role)
    constructor
    · rintro ⟨other, hother, hrole⟩
      exact ⟨entry.group, other, rfl, hother, hrole⟩
    · rintro ⟨group, other, hsame, hother, hrole⟩
      rw [group_eq_of_joined h hother hjoined hsame] at hother
      exact ⟨other, hother, hrole⟩
  globalAccess entry hentry hidentity := by
    obtain ⟨⟨grant, hjoined⟩, heq⟩ := mem_identities.mp hentry
    rw [heq, globalAccess_eq_true]
    subst hidentity
    have hlocal : ∀ grant : Grant, InScope (some workspaceId) grant.scope →
        (grant.scope.scopeType = .localCore ↔ grant.scope = localCore) := by
      rintro grant (hscope | ⟨id, -, hscope⟩)
      · rw [hscope]
        exact iff_of_true rfl rfl
      · rw [hscope]
        exact iff_of_false nofun fun hlocal => nomatch congrArg Scope.scopeType hlocal
    constructor
    · rintro ⟨other, hother, hscope⟩
      obtain ⟨binding, hbound, -, hgrant, hprincipal, heffective, hin⟩ :=
        (mem_joinedGrants h).mp hother
      exact ⟨binding, hbound, other, hgrant, hprincipal, (hlocal other hin).mp hscope, heffective⟩
    · rintro ⟨binding, hbound, other, hgrant, hprincipal, hscope, heffective⟩
      obtain ⟨group, found, hsame, hother, hfound⟩ := (exists_joined_iff h
        fun grant => grant.scope.scopeType = .localCore).mpr
        ⟨binding, hbound, other, hgrant, hprincipal, heffective, .inl hscope, by rw [hscope]; rfl⟩
      rw [group_eq_of_joined h hother hjoined hsame] at hother
      exact ⟨found, hother, hfound⟩

/-! ### Every reachable state has the index -/

variable {p : Platform} {tables' : Tables}

theorem apart_ensureBinding (h : Apart sameIdentity tables.bindings) {resolve : Binding → Binding}
    (hresolve : ∀ binding, (resolve binding).identity = binding.identity)
    (hensure : ensureBinding resolve binding tables = .ok tables') :
    Apart sameIdentity tables'.bindings := by
  obtain ⟨bindings, hbindings, rfl⟩ := ensureBinding_eq_ok.mp hensure
  rcases insertOnConflict_eq_some.mp hbindings with ⟨-, rfl⟩ | ⟨hnone, -, rfl⟩
  · refine apart_map h fun row other hclash => ?_
    have hkept : ∀ old, (if sameIdentity binding old then resolve old else old).identity =
        old.identity := by
      intro old
      split
      · exact hresolve old
      · rfl
    exact (hkept row).symm.trans (hclash.trans (hkept other))
  · exact apart_append h fun old hold hclash => hnone old hold hclash.symm

theorem apart_insert {b : Rows} (hb : b.Coherent) (h : Apart sameIdentity tables.bindings)
    (hinsert : b.insert tables = .ok tables') : Apart sameIdentity tables'.bindings := by
  refine invariant_of_insert (fun tables => Apart sameIdentity tables.bindings) h hinsert
    ?_ ?_ ?_ ?_
  · rintro row - tables tables' h hensure
    obtain ⟨principals, -, rfl⟩ := ensurePrincipal_eq_ok.mp hensure
    exact h
  · rintro row - tables tables' h hensure
    exact apart_ensureBinding h (hb.identity row) hensure
  · rintro scope - tables tables' h hensure
    obtain ⟨-, policies, -, rfl⟩ := ensurePolicy_eq_ok.mp hensure
    exact h
  · rintro row - tables tables' h hgrant
    obtain ⟨-, grants, rfl, -⟩ := insertGrant_eq_ok hgrant
    exact h

theorem apart_bound {ids : AcceptanceIds} {verifiedEmail principalId : String} {bound : Tables}
    (h : Apart sameIdentity tables.bindings)
    (hbound : Bound ids identity verifiedEmail tables principalId bound) :
    Apart sameIdentity bound.bindings := by
  rw [Bound] at hbound
  split at hbound
  · obtain ⟨-, rfl⟩ := hbound
    exact h
  · obtain ⟨-, hinsert⟩ := hbound
    rw [insertPrincipalBinding] at hinsert
    simp only [Guarded.bind_eq_ok, stored_eq_ok, insertRow_eq_some] at hinsert
    obtain ⟨principals, -, bindings, ⟨hnone, rfl⟩, hsame⟩ := hinsert
    rw [← Except.ok.inj hsame]
    exact apart_append h fun old hold hclash => hnone old hold (.inr hclash.symm)

theorem lockScope_bindings {scope : Scope} {expected revision : ℤ}
    (h : lockScope scope expected tables = .ok (revision, tables')) :
    tables'.bindings = tables.bindings := by
  rcases lockScope_eq_ok h with ⟨-, -, -, -, rfl⟩ | ⟨-, -, -, -, rfl⟩
  · rfl
  · rfl

theorem apart_perform (h : Apart sameIdentity tables.bindings) {call : Call}
    (hperform : perform p tables call = .ok tables') : Apart sameIdentity tables'.bindings := by
  obtain ⟨now, operation⟩ := call
  cases operation with
  | createInvitation =>
      obtain ⟨result, hresult, rfl⟩ := Guarded.map_eq_ok.mp hperform
      obtain ⟨locked, held, invitation, hlock, -, -, -, -, hrecord⟩ :=
        createInvitation_eq_ok hresult
      rw [congrArg Prod.snd hrecord]
      exact (lockScope_bindings hlock).symm ▸ h
  | acceptInvitation =>
      obtain ⟨result, hresult, rfl⟩ := Guarded.map_eq_ok.mp hperform
      obtain ⟨invitation, -, principalId, bound, hbound, granted, hgranted, revision, hconsume, -⟩ :=
        acceptInvitation_eq_ok.mp hresult
      have hbound' := apart_bound h hbound
      obtain ⟨-, grants, rfl, -⟩ := insertGrant_eq_ok hgranted
      obtain ⟨policy, auditEvents, -, hconsumed⟩ := consumeInvitation_eq_ok hconsume
      rw [hconsumed]
      exact hbound'
  | upsertGrant =>
      obtain ⟨result, hresult, rfl⟩ := Guarded.map_eq_ok.mp hperform
      obtain ⟨locked, held, granted, hlock, -, hgranted, hrecord⟩ := upsertGrant_eq_ok hresult
      obtain ⟨-, grants, rfl, -⟩ := insertGrant_eq_ok hgranted
      rw [congrArg Prod.snd hrecord]
      exact (lockScope_bindings hlock).symm ▸ h
  | revokeGrant =>
      obtain ⟨result, hresult, rfl⟩ := Guarded.map_eq_ok.mp hperform
      obtain ⟨locked, held, hlock, -, hrecord⟩ := revokeGrant_eq_ok hresult
      rw [congrArg Prod.snd hrecord]
      exact (lockScope_bindings hlock).symm ▸ h
  | importVerifiedGrant identity verifiedEmail scope roleKey actorId =>
      obtain ⟨hfits, hinsert⟩ := perform_importVerifiedGrant hperform
      exact apart_insert (coherent_imported hfits identity verifiedEmail actorId) h hinsert
  | ensureLocalRecoveryOwner localUserId =>
      rw [perform_ensureLocalRecoveryOwner] at hperform
      exact apart_insert (coherent_recovery localUserId) h hperform
  | backfillWorkspaceOwners actorId workspaces =>
      rw [perform_backfillWorkspaceOwners] at hperform
      exact apart_insert (coherent_backfill actorId workspaces) h hperform

theorem apart_after (calls : List Call) : Apart sameIdentity (after p calls).bindings := by
  induction calls using List.reverseRecOn with
  | nil => exact List.Pairwise.nil
  | append_singleton calls call ih =>
      rw [after_append_singleton]
      exact next_cases (fun tables => Apart sameIdentity tables.bindings)
        (fun _ hperform => apart_perform ih hperform) ih

/-- Over the tables that any transactions lead to, and over any tables with the index of
identities, whatever is disabled, revoked or expired in them. -/
theorem readers_agree (p : Platform) :
    (∀ calls, Apart sameIdentity (after p calls).bindings) ∧
      ∀ tables, Apart sameIdentity tables.bindings → ∀ now workspaces identity workspaceId,
        (∃ row ∈ workspaces, row.id = workspaceId) →
          Agree now tables workspaces identity workspaceId :=
  ⟨apart_after, fun _ h _ _ identity _ hworkspace => agree_of_apart h hworkspace identity⟩

theorem readers_agree_after_recovery :
    Agree 2 (after ⟨id, id, id⟩ [⟨1, .ensureLocalRecoveryOwner "u"⟩]) [⟨"w", none⟩]
      (localIdentity "u") "w" :=
  (readers_agree ⟨id, id, id⟩).2 _ ((readers_agree ⟨id, id, id⟩).1 _) 2 _ _ _
    ⟨_, List.mem_singleton_self _, rfl⟩

end MindscapeLocalCore.AccessControl.Reads
