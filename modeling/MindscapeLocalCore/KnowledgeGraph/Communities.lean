import MindscapeLocalCore.KnowledgeAuthorization.Store
import MindscapeLocalCore.KnowledgeGraph.Contracts
import MindscapeLocalCore.Library.StackSearch

/-!
Communities of a graph: the searches from one entity after the other, and that what they find are
the connected components, whatever the order of the input.
-/

namespace MindscapeLocalCore.KnowledgeGraph.Communities

open Library Library.ItemDict
open Library.JsonText (renderAscii)
open Library.StackSearch
open KnowledgeAuthorization.Store (compact hexdigest)
open Contracts

/-! ### The decomposition -/

/-- `adjacency.setdefault(source, set()).add(target)` -/
def addNeighbor (source target : String) (adjacency : Graph String) : Graph String :=
  setItem source (insert target ((getItem source adjacency).getD ∅)) adjacency

def addRelation (adjacency : Graph String) (relation : GraphRelationWrite) : Graph String :=
  addNeighbor relation.targetEntityKey relation.sourceEntityKey
    (addNeighbor relation.sourceEntityKey relation.targetEntityKey adjacency)

variable (entities : List GraphEntityWrite) (relations : List GraphRelationWrite)

local instance isTrans_key : IsTrans String (· ≤ ·) := inferInstance

local instance antisymm_key : Std.Antisymm ((· ≤ ·) : String → String → Prop) := inferInstance

/-- The keys of the entities, sorted, without neighbors. -/
def isolated : Graph String :=
  (entities.map GraphEntityWrite.canonicalKey).toFinset.sort.map fun key => (key, ∅)

/-- `adjacency` -/
def adjacencyOf : Graph String := relations.foldl addRelation (isolated entities)

/-- `sorted(adjacency)` -/
def seedsOf (adjacency : Graph String) : List String :=
  (adjacency.map Prod.fst).toFinset.sort

def relationKeysOf (members : Finset String) : List String :=
  ((relations.filter fun relation =>
    relation.sourceEntityKey ∈ members ∧ relation.targetEntityKey ∈ members).map
      GraphRelationWrite.relationKey).toFinset.sort

/-- `_hash` of `generation_payload` -/
def generationDigest (visibilityPartitionHash : String) (members relationKeys : List String) :
    String :=
  hexdigest (renderAscii compact (.obj
    [("algorithm", .str "connected_components.v1"),
      ("entities", .arr (members.map .str)),
      ("relations", .arr (relationKeys.map .str)),
      ("visibility_partition_hash", .str visibilityPartitionHash)]))

variable (visibilityPartitionHash : String)

def communityOf (members : Finset String) : Except String GraphCommunityWrite :=
  let relationKeys := relationKeysOf relations members
  let digest := generationDigest visibilityPartitionHash members.sort relationKeys
  graphCommunityWrite ("community:" ++ digest) 0 none members.sort relationKeys digest digest

def buildVisibilityPartitionedCommunities : Except String (List GraphCommunityWrite) :=
  let adjacency := adjacencyOf entities relations
  match components adjacency (seedsOf adjacency) ∅ with
  | none => .error "KeyError"
  | some parts => parts.mapM (communityOf relations visibilityPartitionHash)

/-! ### Components -/

def Linked (a b : String) : Prop :=
  ∃ relation ∈ relations, relation.sourceEntityKey = a ∧ relation.targetEntityKey = b

def IsKey (key : String) : Prop :=
  (∃ entity ∈ entities, entity.canonicalKey = key) ∨
    ∃ relation ∈ relations, relation.sourceEntityKey = key ∨ relation.targetEntityKey = key

structure AreComponents (communities : List GraphCommunityWrite) : Prop where
  /-- no key is in two communities, or twice in one -/
  apart : (communities.flatMap GraphCommunityWrite.entityKeys).Nodup
  covered : ∀ key, (∃ community ∈ communities, key ∈ community.entityKeys) ↔
    IsKey entities relations key
  connected : ∀ a b, IsKey entities relations a → IsKey entities relations b →
    ((∃ community ∈ communities, a ∈ community.entityKeys ∧ b ∈ community.entityKeys) ↔
      Relation.EqvGen (Linked relations) a b)
  /-- the ends of a relation are in one community -/
  ends : ∀ relation ∈ relations, ∃ community ∈ communities,
    relation.sourceEntityKey ∈ community.entityKeys ∧
      relation.targetEntityKey ∈ community.entityKeys
  /-- a community has the keys of the relations with their ends in it, and no others -/
  relation_keys : ∀ community ∈ communities, ∀ key, key ∈ community.relationKeys ↔
    ∃ relation ∈ relations, relation.relationKey = key ∧
      relation.sourceEntityKey ∈ community.entityKeys ∧
      relation.targetEntityKey ∈ community.entityKeys

/-! ### The adjacency -/

variable {entities relations visibilityPartitionHash} {adjacency : Graph String}
variable {key other source target : String}

theorem mem_keys_addNeighbor :
    key ∈ (addNeighbor source target adjacency).map Prod.fst ↔
      key = source ∨ key ∈ adjacency.map Prod.fst :=
  mem_map_fst_setItem

theorem leads_iff_mem_getD :
    Leads adjacency key other ↔ other ∈ (getItem key adjacency).getD ∅ := by
  cases h : getItem key adjacency with
  | none => simp [Leads, h]
  | some targets => simp [Leads, h]

theorem leads_addNeighbor :
    Leads (addNeighbor source target adjacency) key other ↔
      key = source ∧ other = target ∨ Leads adjacency key other := by
  rw [leads_iff_mem_getD, leads_iff_mem_getD, addNeighbor, getItem_setItem]
  by_cases h : key = source
  · rw [if_pos h, h]
    simp
  · rw [if_neg h]
    simp [h]

theorem mem_keys_foldl :
    key ∈ (relations.foldl addRelation adjacency).map Prod.fst ↔
      key ∈ adjacency.map Prod.fst ∨
        ∃ relation ∈ relations, relation.sourceEntityKey = key ∨ relation.targetEntityKey = key := by
  induction relations generalizing adjacency with
  | nil => simp
  | cons relation relations ih =>
      rw [List.foldl_cons, ih, addRelation, mem_keys_addNeighbor, mem_keys_addNeighbor,
        List.exists_mem_cons_iff, eq_comm (a := key), eq_comm (a := key)]
      ac_nf

theorem leads_foldl :
    Leads (relations.foldl addRelation adjacency) key other ↔
      Leads adjacency key other ∨ Relation.SymmGen (Linked relations) key other := by
  induction relations generalizing adjacency with
  | nil => simp [Relation.SymmGen, Linked]
  | cons relation relations ih =>
      rw [List.foldl_cons, ih, addRelation, leads_addNeighbor, leads_addNeighbor]
      simp only [Relation.SymmGen, Linked, List.exists_mem_cons_iff]
      rw [eq_comm (a := key), eq_comm (a := key), eq_comm (a := other), eq_comm (a := other),
        and_comm (a := relation.targetEntityKey = key)]
      ac_nf

theorem mem_keys_adjacencyOf :
    key ∈ (adjacencyOf entities relations).map Prod.fst ↔ IsKey entities relations key := by
  rw [adjacencyOf, mem_keys_foldl, isolated, List.map_map]
  simp [IsKey]

theorem mem_seedsOf :
    key ∈ seedsOf (adjacencyOf entities relations) ↔ IsKey entities relations key := by
  rw [seedsOf, Finset.mem_sort, List.mem_toFinset, mem_keys_adjacencyOf]

theorem leads_adjacencyOf :
    Leads (adjacencyOf entities relations) key other ↔
      Relation.SymmGen (Linked relations) key other := by
  rw [adjacencyOf, leads_foldl]
  refine or_iff_right ?_
  rintro ⟨targets, htargets, hmem⟩
  obtain ⟨entry, -, hentry⟩ := List.mem_map.mp (mem_of_getItem htargets)
  rw [← (Prod.mk.inj hentry).2] at hmem
  exact Finset.notMem_empty _ hmem

theorem isKey_of_symmGen (h : Relation.SymmGen (Linked relations) key other) :
    IsKey entities relations other := by
  rcases h with ⟨relation, hmem, -, htarget⟩ | ⟨relation, hmem, hsource, -⟩
  · exact .inr ⟨relation, hmem, .inr htarget⟩
  · exact .inr ⟨relation, hmem, .inl hsource⟩

theorem closed_adjacencyOf : Closed (adjacencyOf entities relations) := by
  intro key other h
  exact mem_keys_adjacencyOf.mpr (isKey_of_symmGen (leads_adjacencyOf.mp h))

theorem reflTransGen_adjacencyOf :
    Relation.ReflTransGen (Leads (adjacencyOf entities relations)) key other ↔
      Relation.EqvGen (Linked relations) key other := by
  have hleads : Leads (adjacencyOf entities relations) = Relation.SymmGen (Linked relations) := by
    funext key other
    exact propext leads_adjacencyOf
  rw [hleads, Relation.EqvGen.reflTransGen_symmGen]

/-! ### Communities -/

theorem not_blank_communityKey (digest : String) : ¬ PythonText.Blank ("community:" ++ digest) := by
  have hmem : 'c' ∈ ("community:" ++ digest).toList := by
    rw [String.toList_append]
    exact List.mem_append_left _ (by decide)
  exact PythonText.not_blank_of_mem hmem (by decide)

theorem length_hexdigest (text : String) : (hexdigest text).length = 64 := by
  rw [hexdigest, String.length_ofList, Hex.length_hexText]

def IsCommunityOf (relations : List GraphRelationWrite) (community : GraphCommunityWrite)
    (members : Finset String) : Prop :=
  community.entityKeys = members.sort ∧
    community.relationKeys = relationKeysOf relations members

theorem communityOf_eq_ok {members : Finset String} (h : members.Nonempty) :
    ∃ community, communityOf relations visibilityPartitionHash members = .ok community ∧
      IsCommunityOf relations community members := by
  have hentities : members.sort ≠ [] := by
    obtain ⟨key, hkey⟩ := h
    exact List.ne_nil_of_mem ((Finset.mem_sort _).mpr hkey)
  have hlength := length_hexdigest (renderAscii compact (.obj
    [("algorithm", .str "connected_components.v1"),
      ("entities", .arr (members.sort.map .str)),
      ("relations", .arr ((relationKeysOf relations members).map .str)),
      ("visibility_partition_hash", .str visibilityPartitionHash)]))
  rw [communityOf, graphCommunityWrite, dif_neg (not_blank_communityKey _), dif_neg hentities,
    dif_pos ⟨hlength, hlength⟩]
  exact ⟨_, rfl, rfl, rfl⟩

theorem mapM_communityOf {parts : List (Finset String)} (h : ∀ part ∈ parts, part.Nonempty) :
    ∃ communities, parts.mapM (communityOf relations visibilityPartitionHash) = .ok communities ∧
      List.Forall₂ (IsCommunityOf relations) communities parts := by
  induction parts with
  | nil => exact ⟨[], rfl, .nil⟩
  | cons part parts ih =>
      obtain ⟨hpart, hparts⟩ := List.forall_mem_cons.mp h
      obtain ⟨community, hcommunity, his⟩ := communityOf_eq_ok hpart
      obtain ⟨communities, hcommunities, hall⟩ := ih hparts
      refine ⟨community :: communities, ?_, .cons his hall⟩
      rw [List.mapM_cons, hcommunity, hcommunities]
      rfl

theorem exists_mem_iff_of_forall₂ {α β : Type} {R : α → β → Prop} {l : List α} {l' : List β}
    {P : α → Prop} {Q : β → Prop} (h : List.Forall₂ R l l') (hiff : ∀ a b, R a b → (P a ↔ Q b)) :
    (∃ a ∈ l, P a) ↔ ∃ b ∈ l', Q b := by
  induction h with
  | nil => simp
  | cons hab _ ih => rw [List.exists_mem_cons_iff, List.exists_mem_cons_iff, hiff _ _ hab, ih]

theorem mem_relationKeysOf {members : Finset String} :
    key ∈ relationKeysOf relations members ↔
      ∃ relation ∈ relations, relation.relationKey = key ∧
        relation.sourceEntityKey ∈ members ∧ relation.targetEntityKey ∈ members := by
  simp only [relationKeysOf, Finset.mem_sort, List.mem_toFinset, List.mem_map, List.mem_filter,
    decide_eq_true_eq]
  constructor
  · rintro ⟨relation, ⟨hmem, hends⟩, hkey⟩
    exact ⟨relation, hmem, hkey, hends⟩
  · rintro ⟨relation, hmem, hkey, hends⟩
    exact ⟨relation, ⟨hmem, hends⟩, hkey⟩

theorem connected_iff {parts : List (Finset String)} {seeds : List String}
    (hclasses : Classes (adjacencyOf entities relations) seeds ∅ parts)
    (hseeds : ∀ key, key ∈ seeds ↔ IsKey entities relations key)
    (hkey : IsKey entities relations key) :
    (∃ part ∈ parts, key ∈ part ∧ other ∈ part) ↔
      Relation.EqvGen (Linked relations) key other := by
  constructor
  · rintro ⟨part, hpart, hmem, hother⟩
    obtain ⟨seed, -, hwhole⟩ := hclasses.whole part hpart
    have hto := reflTransGen_adjacencyOf.mp ((hwhole key).mp hmem)
    have hfrom := reflTransGen_adjacencyOf.mp ((hwhole other).mp hother)
    exact .trans _ _ _ (.symm _ _ hto) hfrom
  · intro hconnected
    obtain ⟨part, hpart, hmem⟩ :=
      (hclasses.complete key ((hseeds key).mpr hkey)).resolve_left (Finset.notMem_empty key)
    obtain ⟨seed, -, hwhole⟩ := hclasses.whole part hpart
    refine ⟨part, hpart, hmem, (hwhole other).mpr ?_⟩
    exact ((hwhole key).mp hmem).trans (reflTransGen_adjacencyOf.mpr hconnected)

theorem areComponents {parts : List (Finset String)} {seeds : List String}
    {communities : List GraphCommunityWrite}
    (hclasses : Classes (adjacencyOf entities relations) seeds ∅ parts)
    (hseeds : ∀ key, key ∈ seeds ↔ IsKey entities relations key)
    (hall : List.Forall₂ (IsCommunityOf relations) communities parts) :
    AreComponents entities relations communities := by
  have hmem : ∀ community part, IsCommunityOf relations community part → ∀ key,
      key ∈ community.entityKeys ↔ key ∈ part := by
    rintro community part ⟨hentities, -⟩ key
    rw [hentities, Finset.mem_sort]
  have hpair : ∀ key other, (∃ community ∈ communities, key ∈ community.entityKeys ∧
      other ∈ community.entityKeys) ↔ ∃ part ∈ parts, key ∈ part ∧ other ∈ part := by
    intro key other
    refine exists_mem_iff_of_forall₂ hall fun community part his => ?_
    rw [hmem community part his, hmem community part his]
  constructor
  · have hkeys : communities.flatMap GraphCommunityWrite.entityKeys =
        parts.flatMap fun part => part.sort := by
      clear hclasses hpair
      induction hall with
      | nil => rfl
      | cons his _ ih => rw [List.flatMap_cons, List.flatMap_cons, his.1, ih]
    rw [hkeys, List.nodup_flatMap]
    refine ⟨fun part _ => Finset.sort_nodup .., hclasses.apart.imp ?_⟩
    intro part part' hdisjoint key hkey hkey'
    exact Finset.disjoint_left.mp hdisjoint ((Finset.mem_sort _).mp hkey)
      ((Finset.mem_sort _).mp hkey')
  · intro key
    have hself := hpair key key
    simp only [and_self] at hself
    rw [hself]
    constructor
    · rintro ⟨part, hpart, hkey⟩
      obtain ⟨seed, hseed, hwhole⟩ := hclasses.whole part hpart
      have hpath := (hwhole key).mp hkey
      cases hpath with
      | refl => exact (hseeds key).mp hseed
      | tail _ hstep => exact isKey_of_symmGen (leads_adjacencyOf.mp hstep)
    · intro hkey
      exact (hclasses.complete key ((hseeds key).mpr hkey)).resolve_left (Finset.notMem_empty key)
  · intro a b ha _
    rw [hpair, connected_iff hclasses hseeds ha]
  · intro relation hrelation
    rw [hpair, connected_iff hclasses hseeds (.inr ⟨relation, hrelation, .inl rfl⟩)]
    exact .rel _ _ ⟨relation, hrelation, rfl, rfl⟩
  · intro community hcommunity key
    obtain ⟨part, -, his⟩ : ∃ part ∈ parts, IsCommunityOf relations community part := by
      clear hclasses hpair
      induction hall with
      | nil => cases hcommunity
      | cons his _ ih =>
          rcases List.mem_cons.mp hcommunity with rfl | hcommunity
          · exact ⟨_, List.mem_cons_self, his⟩
          · obtain ⟨part, hpart, his⟩ := ih hcommunity
            exact ⟨part, List.mem_cons_of_mem _ hpart, his⟩
    rw [his.2, mem_relationKeysOf]
    simp only [hmem community part his]

/-! ### The order of the input -/

section Order

variable {entities' : List GraphEntityWrite} {relations' : List GraphRelationWrite}

theorem isKey_congr (hentities : ∀ entity, entity ∈ entities' ↔ entity ∈ entities)
    (hrelations : ∀ relation, relation ∈ relations' ↔ relation ∈ relations) :
    IsKey entities' relations' key ↔ IsKey entities relations key := by
  simp only [IsKey, hentities, hrelations]

theorem linked_congr (hrelations : ∀ relation, relation ∈ relations' ↔ relation ∈ relations) :
    Linked relations' = Linked relations := by
  funext key other
  simp only [Linked, hrelations]

theorem getItem_adjacencyOf_congr (hentities : ∀ entity, entity ∈ entities' ↔ entity ∈ entities)
    (hrelations : ∀ relation, relation ∈ relations' ↔ relation ∈ relations) :
    getItem key (adjacencyOf entities' relations') =
      getItem key (adjacencyOf entities relations) := by
  have hkey : getItem key (adjacencyOf entities' relations') = none ↔
      getItem key (adjacencyOf entities relations) = none := by
    rw [getItem_eq_none_iff, getItem_eq_none_iff, mem_keys_adjacencyOf, mem_keys_adjacencyOf,
      isKey_congr hentities hrelations]
  have htargets : (getItem key (adjacencyOf entities' relations')).getD ∅ =
      (getItem key (adjacencyOf entities relations)).getD ∅ := by
    ext other
    rw [← leads_iff_mem_getD, ← leads_iff_mem_getD, leads_adjacencyOf, leads_adjacencyOf,
      linked_congr hrelations]
  cases h : getItem key (adjacencyOf entities relations) with
  | none => exact hkey.mpr h
  | some targets =>
      cases h' : getItem key (adjacencyOf entities' relations') with
      | none =>
          rw [hkey.mp h'] at h
          cases h
      | some targets' =>
          rw [h, h'] at htargets
          exact congrArg some htargets

theorem relationKeysOf_congr (hrelations : ∀ relation, relation ∈ relations' ↔ relation ∈ relations)
    (members : Finset String) :
    relationKeysOf relations' members = relationKeysOf relations members := by
  have hset : ((relations'.filter fun relation =>
      relation.sourceEntityKey ∈ members ∧ relation.targetEntityKey ∈ members).map
        GraphRelationWrite.relationKey).toFinset =
      ((relations.filter fun relation =>
      relation.sourceEntityKey ∈ members ∧ relation.targetEntityKey ∈ members).map
        GraphRelationWrite.relationKey).toFinset := by
    ext key
    simp only [List.mem_toFinset, List.mem_map, List.mem_filter, hrelations]
  rw [relationKeysOf, relationKeysOf, hset]

theorem build_congr (hentities : ∀ entity, entity ∈ entities' ↔ entity ∈ entities)
    (hrelations : ∀ relation, relation ∈ relations' ↔ relation ∈ relations) :
    buildVisibilityPartitionedCommunities entities' relations' visibilityPartitionHash =
      buildVisibilityPartitionedCommunities entities relations visibilityPartitionHash := by
  have hseeds : seedsOf (adjacencyOf entities' relations') =
      seedsOf (adjacencyOf entities relations) := by
    have hset : ((adjacencyOf entities' relations').map Prod.fst).toFinset =
        ((adjacencyOf entities relations).map Prod.fst).toFinset := by
      ext key
      rw [List.mem_toFinset, List.mem_toFinset, mem_keys_adjacencyOf, mem_keys_adjacencyOf,
        isKey_congr hentities hrelations]
    rw [seedsOf, seedsOf, hset]
  have hcommunity : communityOf relations' visibilityPartitionHash =
      communityOf relations visibilityPartitionHash := by
    funext members
    rw [communityOf, communityOf, relationKeysOf_congr hrelations]
  simp only [buildVisibilityPartitionedCommunities, hseeds, hcommunity]
  rw [components_congr fun key => getItem_adjacencyOf_congr hentities hrelations]

end Order

/-! ### The components of every graph -/

theorem build_eq_ok :
    ∃ communities, buildVisibilityPartitionedCommunities entities relations
        visibilityPartitionHash = .ok communities ∧
      AreComponents entities relations communities := by
  have hseeds : ∀ key, key ∈ seedsOf (adjacencyOf entities relations) ↔
      IsKey entities relations key := fun _ => mem_seedsOf
  obtain ⟨parts, hparts, hclasses⟩ :
      ∃ parts, components (adjacencyOf entities relations)
          (seedsOf (adjacencyOf entities relations)) ∅ = some parts ∧
        Classes (adjacencyOf entities relations) (seedsOf (adjacencyOf entities relations)) ∅
          parts := by
    refine components_eq_some closed_adjacencyOf ?_ ?_ ?_
    · intro a b hab
      exact leads_adjacencyOf.mpr (leads_adjacencyOf.mp hab).symm
    · intro a ha
      exact mem_keys_adjacencyOf.mpr (mem_seedsOf.mp ha)
    · intro a ha
      exact absurd ha (Finset.notMem_empty a)
  have hnonempty : ∀ part ∈ parts, part.Nonempty := by
    intro part hpart
    obtain ⟨seed, -, hwhole⟩ := hclasses.whole part hpart
    exact ⟨seed, (hwhole seed).mpr .refl⟩
  obtain ⟨communities, hcommunities, hall⟩ := mapM_communityOf hnonempty
  refine ⟨communities, ?_, areComponents hclasses hseeds hall⟩
  rw [buildVisibilityPartitionedCommunities]
  simp only [hparts]
  exact hcommunities

/-- Every graph has its connected components as communities, and no other order or repetition of
its entities and relations has others. -/
theorem communities_are_components (entities : List GraphEntityWrite)
    (relations : List GraphRelationWrite) (visibilityPartitionHash : String) :
    ∃ communities,
      buildVisibilityPartitionedCommunities entities relations visibilityPartitionHash =
        .ok communities ∧
      AreComponents entities relations communities ∧
      ∀ entities' relations', (∀ entity, entity ∈ entities' ↔ entity ∈ entities) →
        (∀ relation, relation ∈ relations' ↔ relation ∈ relations) →
        buildVisibilityPartitionedCommunities entities' relations' visibilityPartitionHash =
          .ok communities := by
  obtain ⟨communities, hbuild, hcomponents⟩ := build_eq_ok
  refine ⟨communities, hbuild, hcomponents, ?_⟩
  intro entities' relations' hentities hrelations
  rw [build_congr hentities hrelations, hbuild]

def sampleEntity : GraphEntityWrite where
  canonicalKey := "entity"
  entityType := "person"
  resolverRevision := "resolver.v1"
  required := by decide +kernel

theorem communities_of_repeated :
    ∃ communities,
      buildVisibilityPartitionedCommunities [sampleEntity] [] "partition" = .ok communities ∧
      AreComponents [sampleEntity] [] communities ∧
      buildVisibilityPartitionedCommunities [sampleEntity, sampleEntity] [] "partition" =
        .ok communities := by
  obtain ⟨communities, hbuild, hcomponents, hcongr⟩ :=
    communities_are_components [sampleEntity] [] "partition"
  refine ⟨communities, hbuild, hcomponents, hcongr _ _ ?_ fun _ => Iff.rfl⟩
  intro entity
  simp

end MindscapeLocalCore.KnowledgeGraph.Communities
