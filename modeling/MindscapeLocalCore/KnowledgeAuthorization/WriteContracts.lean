import Mathlib.Data.List.Lex
import Mathlib.Data.String.Basic
import MindscapeLocalCore.Library.DateTimes
import MindscapeLocalCore.Library.Sorting

/-!
Principals, grants and ACL mutations as their contracts accept them: a mutation lists its grants
once each, in the order of the texts they are written with.
-/

namespace MindscapeLocalCore.KnowledgeAuthorization.WriteContracts

open Library Library.DateTimes

inductive PrincipalType where
  | user
  | workspaceRole
  | groupRole
  | service
  deriving DecidableEq

def PrincipalType.value : PrincipalType → String
  | .user => "user"
  | .workspaceRole => "workspace_role"
  | .groupRole => "group_role"
  | .service => "service"

def isAlphanumeric (c : Char) : Bool :=
  ('A' ≤ c && c ≤ 'Z') || ('a' ≤ c && c ≤ 'z') || ('0' ≤ c && c ≤ '9')

/-- `_TOKEN_RE` -/
def isToken (text : String) : Bool :=
  match text.toList with
  | [] => false
  | first :: rest =>
      isAlphanumeric first && rest.length ≤ 255 &&
        rest.all fun c => isAlphanumeric c || "_.:@/+~-".toList.contains c

structure PrincipalRef where
  type : PrincipalType
  id : String
  token : isToken id = true
  deriving DecidableEq

inductive Relation where
  | reader
  | editor
  | owner
  | ingester
  deriving DecidableEq

def Relation.value : Relation → String
  | .reader => "reader"
  | .editor => "editor"
  | .owner => "owner"
  | .ingester => "ingester"

inductive Effect where
  | allow
  | deny
  deriving DecidableEq

def Effect.value : Effect → String
  | .allow => "allow"
  | .deny => "deny"

def isWindow : Option DateTime → Option DateTime → Bool
  | some validFrom, some validUntil => le? validUntil validFrom = some false
  | _, _ => true

structure KnowledgeGrant where
  principal : PrincipalRef
  relation : Relation
  effect : Effect
  validFrom : Option DateTime
  validUntil : Option DateTime
  window : isWindow validFrom validUntil = true
  deriving DecidableEq

structure GrantKey where
  principalType : PrincipalType
  principalId : String
  relation : Relation
  effect : Effect
  deriving DecidableEq

def KnowledgeGrant.key (grant : KnowledgeGrant) : GrantKey where
  principalType := grant.principal.type
  principalId := grant.principal.id
  relation := grant.relation
  effect := grant.effect

/-- What `==` compares of two grants. -/
def KnowledgeGrant.content (grant : KnowledgeGrant) :
    GrantKey × Option (Bool × ℤ) × Option (Bool × ℤ) :=
  (grant.key, grant.validFrom.map DateTime.moment, grant.validUntil.map DateTime.moment)

def GrantKey.texts (key : GrantKey) : List String :=
  [key.principalType.value, key.principalId, key.relation.value, key.effect.value]

/-- `grant.valid_from.isoformat() if grant.valid_from else ""` -/
def isoText (time : Option DateTime) : String := (time.map isoformat).getD ""

def sortKey (grant : KnowledgeGrant) : List String :=
  grant.key.texts ++ [isoText grant.validFrom, isoText grant.validUntil]

def firstsBy {α κ : Type} [DecidableEq κ] (key : α → κ) : List α → List α
  | [] => []
  | a :: rest => a :: (firstsBy key rest).filter fun b => key b ≠ key a

structure KnowledgeAclMutation where
  expectedAuthzRevision : ℕ
  grants : List KnowledgeGrant
  positive : 1 ≤ expectedAuthzRevision
  distinct : grants.Pairwise fun grant other => grant.content ≠ other.content
  sorted : Sorting.SortedBy (· ≤ ·) sortKey grants
  nonempty : grants ≠ []

/-! ### Texts -/

theorem PrincipalType.value_inj {a b : PrincipalType} (h : a.value = b.value) : a = b := by
  cases a <;> cases b <;> first | rfl | exact absurd h (by decide)

theorem Relation.value_inj {a b : Relation} (h : a.value = b.value) : a = b := by
  cases a <;> cases b <;> first | rfl | exact absurd h (by decide)

theorem Effect.value_inj {a b : Effect} (h : a.value = b.value) : a = b := by
  cases a <;> cases b <;> first | rfl | exact absurd h (by decide)

theorem GrantKey.texts_inj {a b : GrantKey} : a.texts = b.texts ↔ a = b := by
  constructor
  · intro h
    obtain ⟨htype, hid, hrelation, heffect⟩ : a.principalType.value = b.principalType.value ∧
        a.principalId = b.principalId ∧ a.relation.value = b.relation.value ∧
          a.effect.value = b.effect.value := by
      simpa only [GrantKey.texts, List.cons.injEq, and_true] using h
    cases a
    cases b
    obtain rfl := PrincipalType.value_inj htype
    obtain rfl := Relation.value_inj hrelation
    obtain rfl := Effect.value_inj heffect
    obtain rfl : _ = _ := hid
    rfl
  · rintro rfl
    rfl

theorem isoformat_ne_empty (time : DateTime) : isoformat time ≠ "" := by
  intro h
  have hlist := congrArg String.toList h
  rw [isoformat, String.toList_ofList] at hlist
  exact absurd hlist (by simp)

theorem isoText_inj {a b : Option DateTime} : isoText a = isoText b ↔ a = b := by
  constructor
  · intro h
    cases a with
    | none =>
        cases b with
        | none => rfl
        | some b => exact absurd (Eq.symm h) (isoformat_ne_empty b)
    | some a =>
        cases b with
        | none => exact absurd h (isoformat_ne_empty a)
        | some b => rw [isoformat_inj.mp h]
  · rintro rfl
    rfl

theorem sortKey_inj {a b : KnowledgeGrant} : sortKey a = sortKey b ↔ a = b := by
  constructor
  · intro h
    obtain ⟨hkey, hwindow⟩ := List.append_inj h rfl
    have hfrom := isoText_inj.mp (List.cons.inj hwindow).1
    have huntil := isoText_inj.mp (List.cons.inj (List.cons.inj hwindow).2).1
    have hkey := GrantKey.texts_inj.mp hkey
    obtain ⟨⟨type, id, token⟩, relation, effect, validFrom, validUntil, window⟩ := a
    obtain ⟨⟨type', id', token'⟩, relation', effect', validFrom', validUntil', window'⟩ := b
    obtain ⟨rfl, rfl, rfl, rfl⟩ : type = type' ∧ id = id' ∧ relation = relation' ∧
        effect = effect' := by
      simpa only [KnowledgeGrant.key, GrantKey.mk.injEq] using hkey
    obtain rfl : validFrom = validFrom' := hfrom
    obtain rfl : validUntil = validUntil' := huntil
    rfl
  · rintro rfl
    rfl

/-! ### Building a mutation -/

section Firsts

variable {α κ : Type} [DecidableEq κ] {key : α → κ} {a : α} {l : List α}

theorem pairwise_firstsBy : (firstsBy key l).Pairwise fun a b => key a ≠ key b := by
  induction l with
  | nil => exact List.Pairwise.nil
  | cons a rest ih =>
      refine List.pairwise_cons.mpr ⟨fun b hb => ?_, ih.filter _⟩
      exact (of_decide_eq_true (List.mem_filter.mp hb).2).symm

theorem firstsBy_ne_nil (h : l ≠ []) : firstsBy key l ≠ [] := by
  cases l with
  | nil => exact absurd rfl h
  | cons a rest => exact List.cons_ne_nil _ _

end Firsts

def normalize (grants : List KnowledgeGrant) : List KnowledgeGrant :=
  Sorting.sortBy (· ≤ ·) sortKey (firstsBy KnowledgeGrant.content grants)

variable {grants : List KnowledgeGrant}

theorem perm_normalize : (normalize grants).Perm (firstsBy KnowledgeGrant.content grants) :=
  Sorting.perm_sortBy _

theorem distinct_normalize :
    (normalize grants).Pairwise fun grant other => grant.content ≠ other.content :=
  pairwise_firstsBy.perm perm_normalize.symm fun hne => hne.symm

theorem normalize_ne_nil (h : grants ≠ []) : normalize grants ≠ [] := by
  intro hnil
  have hperm : (normalize grants).Perm (firstsBy KnowledgeGrant.content grants) := perm_normalize
  rw [hnil] at hperm
  exact firstsBy_ne_nil h hperm.nil_eq.symm

/-- `KnowledgeAclMutation(expected_authz_revision, grants)` -/
def KnowledgeAclMutation.create (expectedAuthzRevision : ℕ) (grants : List KnowledgeGrant) :
    Option KnowledgeAclMutation :=
  if h : 1 ≤ expectedAuthzRevision ∧ grants ≠ [] then
    some
      { expectedAuthzRevision := expectedAuthzRevision
        grants := normalize grants
        positive := h.1
        distinct := distinct_normalize
        sorted := Sorting.sortedBy_sortBy _
        nonempty := normalize_ne_nil h.2 }
  else none

theorem exists_create {revision : ℕ} (hrevision : 1 ≤ revision) (hgrants : grants ≠ []) :
    ∃ mutation, KnowledgeAclMutation.create revision grants = some mutation ∧
      mutation.expectedAuthzRevision = revision ∧ mutation.grants = normalize grants := by
  refine ⟨_, dif_pos ⟨hrevision, hgrants⟩, rfl, rfl⟩

end MindscapeLocalCore.KnowledgeAuthorization.WriteContracts
