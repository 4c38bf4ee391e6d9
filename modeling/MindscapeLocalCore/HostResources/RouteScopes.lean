import MindscapeLocalCore.HostResources.ReservationCancels
import MindscapeLocalCore.HostResources.RouteGate

/-!
The two scope tests of the route gate, and the choice that it makes among candidates.
-/

namespace MindscapeLocalCore.HostResources.RouteScopes

open Library Library.FirstMaximum Library.Json Library.PythonText
open Library.TextParts (strip_strip)
open ReservationCancels (samplePlatform)
open ReservationStore RouteGate

variable (p : Platform)

/-- What is put up for selection: a task, and the pack that the candidate names. -/
structure Offer where
  task : Task
  packId : Option Json

def Offer.candidate (offer : Offer) : Candidate := ⟨taskRouteIdentity p offer.task, offer.packId⟩

def InScope (task : Task) (reservation : Json) : Prop :=
  routeIdentityMatchesReservationScope p (taskRouteIdentity p task) reservation = true

def Permitted (reservations : List Json) (task : Task) : Prop :=
  (evaluateRouteIdentityCandidate p (taskRouteIdentity p task) reservations).permit = true

instance (task : Task) (reservation : Json) : Decidable (InScope p task reservation) :=
  inferInstanceAs (Decidable (_ = true))

instance (reservations : List Json) (task : Task) : Decidable (Permitted p reservations task) :=
  inferInstanceAs (Decidable (_ = true))

def pairScore (task : Task) : Json → ℕ
  | .obj reservation =>
      matchScore (taskRouteIdentity p task) (matchOf p (taskRouteIdentity p task) reservation)
  | _ => 0

def SelectsBest (offers : List Offer) (reservations : List Json) (selection : Selection) : Prop :=
  ∃ before offer after, offers = before ++ offer :: after ∧
    selection.selected = some (offer.candidate p) ∧
    ∃ reservation ∈ reservations, InScope p offer.task reservation ∧
      (∀ decision ∈ selection.decision, decision.score = pairScore p offer.task reservation) ∧
      (∀ other ∈ offers, ∀ reservation' ∈ reservations, InScope p other.task reservation' →
        pairScore p other.task reservation' ≤ pairScore p offer.task reservation) ∧
      ∀ other ∈ before, ∀ reservation' ∈ reservations, InScope p other.task reservation' →
        pairScore p other.task reservation' < pairScore p offer.task reservation

/-- The gate lets a candidate through where a reservation is in its scope, it selects the best,
and it waits only where none is let through and one that drains is in scope. -/
def GateExact (offers : List Offer) (reservations : List Json)
    (reservedSharePackIds activePackIds : List String) : Prop :=
  let selection := selectCandidatePolicy p (offers.map (Offer.candidate p)) reservations
    reservedSharePackIds activePackIds
  (∀ offer ∈ offers, Permitted p reservations offer.task ↔
    ∃ reservation ∈ reservations, InScope p offer.task reservation) ∧
  ((∃ offer ∈ offers, ∃ reservation ∈ reservations, InScope p offer.task reservation) →
    SelectsBest p offers reservations selection) ∧
  (selection.drainWait = true →
    (∀ offer ∈ offers, ¬ Permitted p reservations offer.task) ∧
      ∃ reservation, Json.obj reservation ∈ reservations ∧
        drainPolicy p reservation = "drain_after_current" ∧
          ∃ offer ∈ offers, InScope p offer.task (.obj reservation))

/-! ### What is compared -/

def taskLanes (task : Task) : List String :=
  laneNames p (resourceRequirementsFromContext (taskContext task))

def flavorOf (identity : RouteIdentity) : String := strip (identity.resourceFlavor.getD "")

/-- An identity whose lane, one of whose groups or whose flavor is that of a reservation, where
the flavors do not differ. -/
def Admits (identity : RouteIdentity) (reservation : Dict) : Prop :=
  vetoed p (flavorOf identity) reservation = false ∧
    ((targetLane p reservation ≠ "" ∧ identity.laneId = some (targetLane p reservation)) ∨
      (∃ group ∈ identity.resourceGroups, group ∈ reservationGroups p reservation) ∨
      flavorMatches p (flavorOf identity) reservation = true)

def MatchesAsIs (task : Task) (reservation : Dict) : Prop :=
  Admits p (taskRouteIdentity p task) reservation

/-- A lane of the requirements is a group of a reservation but for whitespace around it. -/
def MatchesStripped (task : Task) (reservation : Dict) : Prop :=
  vetoed p (flavorOf (taskRouteIdentity p task)) reservation = false ∧
    ∃ lane ∈ taskLanes p task, strip lane ≠ lane ∧ strip lane ∈ reservationGroups p reservation

/-- A task with such a lane matches another reservation as it is. -/
def LanesTrimmed (offers : List Offer) (reservations : List Json) : Prop :=
  ∀ offer ∈ offers, ∀ reservation, Json.obj reservation ∈ reservations →
    MatchesStripped p offer.task reservation →
      ∃ other, Json.obj other ∈ reservations ∧ MatchesAsIs p offer.task other

variable {p} {task : Task} {reservation : Dict} {reservations : List Json} {group : String}

/-! ### Groups -/

theorem stripped_of_mem_stringList {value : Option Json} (h : group ∈ stringList p value) :
    strip group = group ∧ group ≠ "" := by
  unfold stringList at h
  split at h
  · obtain ⟨hmem, hnamed⟩ := List.mem_filter.mp h
    obtain ⟨item, -, rfl⟩ := List.mem_map.mp hmem
    exact ⟨strip_strip _, of_decide_eq_true hnamed⟩
  · cases h

theorem mem_resourceGroups :
    group ∈ (taskRouteIdentity p task).resourceGroups ↔
      group ∈ groupNames p (routeRequestFromContext (taskContext task))
        (resourceRequirementsFromContext (taskContext task)) := by
  show group ∈ Sorting.sortBy _ _ _ ↔ _
  rw [Sorting.mem_sortBy, List.mem_dedup]

theorem mem_taskLanes_of_spaced (h : group ∈ (taskRouteIdentity p task).resourceGroups)
    (hspaced : strip group ≠ group) : group ∈ taskLanes p task := by
  rw [mem_resourceGroups, groupNames, List.mem_append, List.mem_append] at h
  rcases h with (h | h) | h
  · exact absurd (stripped_of_mem_stringList h).1 hspaced
  · exact absurd (stripped_of_mem_stringList h).1 hspaced
  · exact h

theorem mem_resourceGroups_of_lane (h : group ∈ taskLanes p task) :
    group ∈ (taskRouteIdentity p task).resourceGroups := by
  rw [mem_resourceGroups, groupNames]
  exact List.mem_append_right _ h

theorem intersects_iff {groups others : List String} :
    intersects groups others = true ↔ ∃ group ∈ groups, group ∈ others := by
  rw [intersects, List.any_eq_true]
  simp only [decide_eq_true_eq]

theorem stripped_groups_iff :
    intersects (((taskRouteIdentity p task).resourceGroups.map strip).filter (· ≠ ""))
        (reservationGroups p reservation) = true ↔
      (∃ group ∈ (taskRouteIdentity p task).resourceGroups, group ∈ reservationGroups p reservation) ∨
        ∃ lane ∈ taskLanes p task, strip lane ≠ lane ∧ strip lane ∈ reservationGroups p reservation := by
  rw [intersects_iff]
  constructor
  · rintro ⟨name, hmem, hin⟩
    obtain ⟨hmem, -⟩ := List.mem_filter.mp hmem
    obtain ⟨group, hgroup, rfl⟩ := List.mem_map.mp hmem
    by_cases hsame : strip group = group
    · exact .inl ⟨group, hgroup, hsame ▸ hin⟩
    · exact .inr ⟨group, mem_taskLanes_of_spaced hgroup hsame, hsame, hin⟩
  · rintro (⟨group, hgroup, hin⟩ | ⟨lane, hlane, -, hin⟩)
    · obtain ⟨hsame, hnamed⟩ := stripped_of_mem_stringList hin
      refine ⟨group, List.mem_filter.mpr ⟨?_, decide_eq_true hnamed⟩, hin⟩
      exact List.mem_map.mpr ⟨group, hgroup, hsame⟩
    · obtain ⟨-, hnamed⟩ := stripped_of_mem_stringList hin
      refine ⟨strip lane, List.mem_filter.mpr ⟨?_, decide_eq_true hnamed⟩, hin⟩
      exact List.mem_map.mpr ⟨lane, mem_resourceGroups_of_lane hlane, rfl⟩

/-! ### Scopes -/

theorem strip_laneId :
    strip ((taskRouteIdentity p task).laneId.getD "") = (taskRouteIdentity p task).laneId.getD "" := by
  have hstripped : ∀ value : Option Json, strip ((strippedIf p value).getD "") =
      (strippedIf p value).getD "" := by
    intro value
    unfold strippedIf
    split
    · rfl
    · split
      · exact strip_strip _
      · rfl
  exact hstripped _

theorem laneMatches_iff {lane : String} (hlane : lane ≠ "") :
    strip ((taskRouteIdentity p task).laneId.getD "") = lane ↔
      (taskRouteIdentity p task).laneId = some lane := by
  rw [strip_laneId]
  cases (taskRouteIdentity p task).laneId with
  | none => exact iff_of_false (fun h => hlane h.symm) nofun
  | some laneId => rw [Option.getD_some, Option.some.injEq]

theorem inScope_iff :
    InScope p task (.obj reservation) ↔
      MatchesAsIs p task reservation ∨ MatchesStripped p task reservation := by
  have hscope : InScope p task (.obj reservation) ↔ vetoed p (flavorOf (taskRouteIdentity p task)) reservation = false ∧
      ((targetLane p reservation ≠ "" ∧
          strip ((taskRouteIdentity p task).laneId.getD "") = targetLane p reservation) ∨
        intersects (((taskRouteIdentity p task).resourceGroups.map strip).filter (· ≠ ""))
          (reservationGroups p reservation) = true ∨
        flavorMatches p (flavorOf (taskRouteIdentity p task)) reservation = true) := by
    rw [InScope, routeIdentityMatchesReservationScope]
    show (if vetoed p (flavorOf (taskRouteIdentity p task)) reservation = true then false else _) = true ↔ _
    split
    · rename_i hveto
      exact iff_of_false nofun fun h => by rw [hveto] at h; cases h.1
    · rename_i hveto
      rw [Bool.or_eq_true, Bool.or_eq_true, decide_eq_true_eq, or_assoc]
      exact (and_iff_right (Bool.not_eq_true _ ▸ hveto)).symm
  have hlane : (targetLane p reservation ≠ "" ∧
      strip ((taskRouteIdentity p task).laneId.getD "") = targetLane p reservation) ↔
        (targetLane p reservation ≠ "" ∧
          (taskRouteIdentity p task).laneId = some (targetLane p reservation)) :=
    and_congr_right fun hnamed => laneMatches_iff hnamed
  rw [hscope, hlane, stripped_groups_iff, MatchesAsIs, Admits, MatchesStripped,
    ← and_or_left]
  refine and_congr_right fun _ => ?_
  constructor
  · rintro (h | (h | h) | h)
    · exact .inl (.inl h)
    · exact .inl (.inr (.inl h))
    · exact .inr h
    · exact .inl (.inr (.inr h))
  · rintro ((h | h | h) | h)
    · exact .inl h
    · exact .inr (.inl (.inl h))
    · exact .inr (.inr h)
    · exact .inr (.inl (.inr h))

theorem obj_of_inScope {value : Json} (h : InScope p task value) :
    ∃ reservation, value = .obj reservation := by
  cases value with
  | obj reservation => exact ⟨reservation, rfl⟩
  | _ => cases h

/-! ### Decisions -/

section Identity

variable {identity : RouteIdentity}

def admitted (p : Platform) (identity : RouteIdentity) : Json → Option Match
  | .obj reservation =>
      let found := matchOf p identity reservation
      if vetoed p (flavorOf identity) reservation then none
      else if ¬ found.laneMatches ∧ ¬ found.groupMatches ∧ ¬ found.flavorMatches then none
      else some found
  | _ => none

theorem matchOf_laneMatches :
    (matchOf p identity reservation).laneMatches = true ↔
      targetLane p reservation ≠ "" ∧ identity.laneId = some (targetLane p reservation) :=
  decide_eq_true_iff

theorem matchOf_groupMatches :
    (matchOf p identity reservation).groupMatches = true ↔
      ∃ group ∈ identity.resourceGroups, group ∈ reservationGroups p reservation :=
  intersects_iff

theorem matchOf_flavorMatches :
    (matchOf p identity reservation).flavorMatches =
      flavorMatches p (flavorOf identity) reservation := rfl

theorem admitted_eq_some {value : Json} {found : Match} :
    admitted p identity value = some found ↔ ∃ reservation, value = .obj reservation ∧
      Admits p identity reservation ∧ matchOf p identity reservation = found := by
  cases value with
  | obj reservation =>
      simp only [Json.obj.injEq, exists_eq_left']
      rw [Admits, ← matchOf_laneMatches, ← matchOf_groupMatches, ← matchOf_flavorMatches, admitted]
      split
      · rename_i hveto
        exact iff_of_false nofun fun h => by rw [hveto] at h; cases h.1.1
      · rename_i hveto
        rw [Bool.not_eq_true] at hveto
        split
        · rename_i hnone
          obtain ⟨hlane, hgroup, hflavor⟩ := hnone
          refine iff_of_false nofun ?_
          rintro ⟨⟨-, h | h | h⟩, -⟩
          · exact hlane h
          · exact hgroup h
          · exact hflavor h
        · rename_i hsome
          rw [Option.some.injEq]
          refine (and_iff_right ⟨hveto, ?_⟩).symm
          by_contra hnone
          rw [not_or, not_or] at hnone
          exact hsome hnone
  | _ => exact iff_of_false nofun (by rintro ⟨_, h, -⟩; cases h)

def decisionSoFar (p : Platform) (identity : RouteIdentity) : Option Match → RouteGateDecision
  | none => noMatch identity
  | some found => decisionOf p identity found

theorem considerReservation_decisionSoFar (best : Option Match) (value : Json) :
    considerReservation p identity (decisionSoFar p identity best) value =
      decisionSoFar p identity (match admitted p identity value with
        | none => best
        | some found => keepBest (matchScore identity) best found) := by
  cases value with
  | obj reservation =>
      rw [considerReservation, admitted]
      show (if vetoed p (flavorOf identity) reservation = true then _ else _) = _
      split
      · rfl
      · split
        · rfl
        · cases best with
          | none => exact if_neg fun h => by cases h.2
          | some old =>
              show (if matchScore identity _ ≤ matchScore identity old ∧ true = true then _ else _) =
                decisionSoFar p identity
                  (if matchScore identity old < matchScore identity _ then _ else _)
              split
              · rename_i hle
                rw [if_neg (Nat.not_lt.mpr hle.1)]
              · rename_i hnot
                rw [if_pos (Nat.lt_of_not_le fun hle => hnot ⟨hle, rfl⟩)]
                rfl
  | _ => rfl

theorem evaluate_eq :
    evaluateRouteIdentityCandidate p identity reservations =
      decisionSoFar p identity ((reservations.filterMap (admitted p identity)).foldl
        (keepBest (matchScore identity)) none) := by
  have hfold : ∀ best, reservations.foldl (considerReservation p identity)
      (decisionSoFar p identity best) =
        decisionSoFar p identity ((reservations.filterMap (admitted p identity)).foldl
          (keepBest (matchScore identity)) best) := by
    induction reservations with
    | nil => exact fun best => rfl
    | cons value reservations ih =>
        intro best
        rw [List.foldl_cons, considerReservation_decisionSoFar, ih, List.filterMap_cons]
        cases admitted p identity value with
        | none => rfl
        | some found => rfl
  exact hfold none

theorem evaluate_cases :
    ((evaluateRouteIdentityCandidate p identity reservations).permit = false ∧
        ∀ reservation, Json.obj reservation ∈ reservations → ¬ Admits p identity reservation) ∨
      ((evaluateRouteIdentityCandidate p identity reservations).permit = true ∧
        ∃ reservation, Json.obj reservation ∈ reservations ∧ Admits p identity reservation ∧
          (evaluateRouteIdentityCandidate p identity reservations).score =
            matchScore identity (matchOf p identity reservation) ∧
          ∀ other, Json.obj other ∈ reservations → Admits p identity other →
            matchScore identity (matchOf p identity other) ≤
              matchScore identity (matchOf p identity reservation)) := by
  rw [evaluate_eq]
  rcases @foldl_keepBest_none _ (matchScore identity)
    (reservations.filterMap (admitted p identity)) with ⟨hnone, hempty⟩ | ⟨found, hfound, hmax⟩
  · rw [hnone]
    refine .inl ⟨rfl, fun reservation hmem hmatches => ?_⟩
    have hadmitted := List.filterMap_eq_nil_iff.mp hempty _ hmem
    rw [admitted_eq_some.mpr ⟨reservation, rfl, hmatches, rfl⟩] at hadmitted
    cases hadmitted
  · rw [hfound]
    obtain ⟨value, hvalue, hadmitted⟩ := List.mem_filterMap.mp hmax.mem
    obtain ⟨reservation, rfl, hmatches, rfl⟩ := admitted_eq_some.mp hadmitted
    refine .inr ⟨rfl, reservation, hvalue, hmatches, rfl, fun other hother hmatches' => ?_⟩
    exact hmax.le _ (List.mem_filterMap.mpr
      ⟨.obj other, hother, admitted_eq_some.mpr ⟨other, rfl, hmatches', rfl⟩⟩)

end Identity

theorem permitted_iff :
    Permitted p reservations task ↔
      ∃ reservation, Json.obj reservation ∈ reservations ∧ MatchesAsIs p task reservation := by
  rcases @evaluate_cases p reservations (taskRouteIdentity p task) with
    ⟨hnot, hnone⟩ | ⟨hpermitted, reservation, hmem, hmatches, -⟩
  · refine iff_of_false (fun h => ?_) fun ⟨reservation, hmem, hmatches⟩ =>
      hnone reservation hmem hmatches
    rw [Permitted, hnot] at h
    cases h
  · exact iff_of_true hpermitted ⟨reservation, hmem, hmatches⟩

/-! ### The choice -/

/-- What a candidate that is let through brings to the choice. -/
def offered (p : Platform) (reservations : List Json) (candidate : Candidate) :
    Option (Candidate × RouteGateDecision) :=
  let decision := evaluateRouteIdentityCandidate p candidate.routeIdentity reservations
  if decision.permit then some (candidate, decision) else none

theorem considerCandidate_eq (best : Option (Candidate × RouteGateDecision)) (candidate : Candidate) :
    considerCandidate p reservations best candidate =
      match offered p reservations candidate with
      | none => best
      | some choice => keepBest (fun choice => choice.2.score) best choice := by
  unfold considerCandidate offered
  dsimp only
  by_cases hpermit : (evaluateRouteIdentityCandidate p candidate.routeIdentity
    reservations).permit = true
  · rw [if_neg (not_not.mpr hpermit), if_pos hpermit]
    cases best with
    | none => rfl
    | some old => rfl
  · rw [if_pos hpermit, if_neg hpermit]

theorem foldl_considerCandidate (candidates : List Candidate)
    (best : Option (Candidate × RouteGateDecision)) :
    candidates.foldl (considerCandidate p reservations) best =
      (candidates.filterMap (offered p reservations)).foldl
        (keepBest fun choice => choice.2.score) best := by
  induction candidates generalizing best with
  | nil => rfl
  | cons candidate candidates ih =>
      rw [List.foldl_cons, ih, List.filterMap_cons, considerCandidate_eq]
      cases offered p reservations candidate with
      | none => rfl
      | some choice => rfl

theorem offered_eq_some {offer : Offer} {choice : Candidate × RouteGateDecision} :
    offered p reservations (offer.candidate p) = some choice ↔
      Permitted p reservations offer.task ∧ choice = (offer.candidate p,
        evaluateRouteIdentityCandidate p (taskRouteIdentity p offer.task) reservations) := by
  rw [offered]
  show (if (evaluateRouteIdentityCandidate p (taskRouteIdentity p offer.task)
    reservations).permit = true then _ else _) = _ ↔ _
  split
  · rename_i hpermit
    rw [Option.some.injEq, eq_comm]
    exact (and_iff_right hpermit).symm
  · rename_i hnot
    exact iff_of_false nofun fun h => hnot h.1

theorem baseScore_le_matchScore (identity : RouteIdentity) (found : Match) :
    baseScore identity + 500 ≤ matchScore identity found := by
  rw [matchScore]
  split <;> split <;> omega

theorem matchScore_of_not_admits {identity : RouteIdentity}
    (hveto : vetoed p (flavorOf identity) reservation = false)
    (hnot : ¬ Admits p identity reservation) :
    matchScore identity (matchOf p identity reservation) = baseScore identity + 500 := by
  have hlane : (matchOf p identity reservation).laneMatches = false :=
    Bool.eq_false_iff.mpr fun h => hnot ⟨hveto, .inl (matchOf_laneMatches.mp h)⟩
  have hflavor : (matchOf p identity reservation).flavorMatches = false :=
    Bool.eq_false_iff.mpr fun h => hnot ⟨hveto, .inr (.inr h)⟩
  rw [matchScore, hlane, hflavor]
  rfl

theorem pairScore_le (hpermitted : Permitted p reservations task)
    (hmem : Json.obj reservation ∈ reservations) (hscope : InScope p task (.obj reservation)) :
    pairScore p task (.obj reservation) ≤
      (evaluateRouteIdentityCandidate p (taskRouteIdentity p task) reservations).score := by
  rcases @evaluate_cases p reservations (taskRouteIdentity p task) with
    ⟨hnot, -⟩ | ⟨-, best, -, -, hscore, hbest⟩
  · rw [Permitted, hnot] at hpermitted
    cases hpermitted
  · rw [hscore]
    by_cases hadmits : Admits p (taskRouteIdentity p task) reservation
    · exact hbest reservation hmem hadmits
    · -- It is in scope by a lane with whitespace around it, which gives the least score.
      have hveto : vetoed p (flavorOf (taskRouteIdentity p task)) reservation = false := by
        rcases inScope_iff.mp hscope with h | h
        · exact h.1
        · exact h.1
      have hleast : pairScore p task (.obj reservation) =
          baseScore (taskRouteIdentity p task) + 500 := matchScore_of_not_admits hveto hadmits
      rw [hleast]
      exact baseScore_le_matchScore _ _

theorem selectsBest_of_agree {offers : List Offer} {shares packs : List String}
    (hagree : ∀ offer ∈ offers, Permitted p reservations offer.task ↔
      ∃ reservation ∈ reservations, InScope p offer.task reservation)
    (hsome : ∃ offer ∈ offers, ∃ reservation ∈ reservations, InScope p offer.task reservation) :
    SelectsBest p offers reservations
      (selectCandidatePolicy p (offers.map (Offer.candidate p)) reservations shares packs) := by
  rw [selectCandidatePolicy, foldl_considerCandidate, List.filterMap_map]
  rcases @foldl_keepBest_none _ (fun choice : Candidate × RouteGateDecision => choice.2.score)
    (offers.filterMap (offered p reservations ∘ Offer.candidate p)) with
    ⟨-, hempty⟩ | ⟨choice, hchoice, hmax⟩
  · obtain ⟨offer, hoffer, hscope⟩ := hsome
    have hnone := List.filterMap_eq_nil_iff.mp hempty offer hoffer
    have hoffered := offered_eq_some.mpr ⟨(hagree offer hoffer).mpr hscope, rfl⟩
    rw [Function.comp_apply, hoffered] at hnone
    cases hnone
  · rw [hchoice]
    obtain ⟨before, offer, after, rfl, hoffered, hless, hle⟩ := isFirstMax_filterMap hmax
    obtain ⟨hpermitted, rfl⟩ := offered_eq_some.mp hoffered
    rcases @evaluate_cases p reservations (taskRouteIdentity p offer.task) with
      ⟨hnot, -⟩ | ⟨-, best, hbest, hadmits, hscore, -⟩
    · rw [Permitted, hnot] at hpermitted
      cases hpermitted
    · have hother : ∀ other ∈ before ++ offer :: after, ∀ value ∈ reservations,
          InScope p other.task value → Permitted p reservations other.task ∧
            pairScore p other.task value ≤ (evaluateRouteIdentityCandidate p
              (taskRouteIdentity p other.task) reservations).score := by
        intro other hmem value hvalue hscope
        have hpermitted := (hagree other hmem).mpr ⟨value, hvalue, hscope⟩
        obtain ⟨reservation, rfl⟩ := obj_of_inScope hscope
        exact ⟨hpermitted, pairScore_le hpermitted hvalue hscope⟩
      refine ⟨before, offer, after, rfl, rfl, .obj best, hbest, inScope_iff.mpr (.inl hadmits), ?_, ?_,
        ?_⟩
      · intro decision hdecision
        obtain rfl := Option.some.inj hdecision
        exact hscore
      · intro other hmem value hvalue hscope
        obtain ⟨hpermitted', hpair⟩ := hother other hmem value hvalue hscope
        have hbelow := hle other hmem _ (offered_eq_some.mpr ⟨hpermitted', rfl⟩)
        exact hpair.trans (hbelow.trans (le_of_eq hscore))
      · intro other hmem value hvalue hscope
        obtain ⟨hpermitted', hpair⟩ := hother other (List.mem_append_left _ hmem) value hvalue hscope
        have hbelow := hless other hmem _ (offered_eq_some.mpr ⟨hpermitted', rfl⟩)
        exact lt_of_le_of_lt hpair (lt_of_lt_of_eq hbelow hscore)

theorem waits_of_drainWait {offers : List Offer} {shares packs : List String}
    (h : (selectCandidatePolicy p (offers.map (Offer.candidate p)) reservations shares
      packs).drainWait = true) :
    (∀ offer ∈ offers, ¬ Permitted p reservations offer.task) ∧
      ∃ reservation, Json.obj reservation ∈ reservations ∧
        drainPolicy p reservation = "drain_after_current" ∧
          ∃ offer ∈ offers, InScope p offer.task (.obj reservation) := by
  rw [selectCandidatePolicy, foldl_considerCandidate, List.filterMap_map] at h
  rcases @foldl_keepBest_none _ (fun choice : Candidate × RouteGateDecision => choice.2.score)
    (offers.filterMap (offered p reservations ∘ Offer.candidate p)) with
    ⟨hnone, hempty⟩ | ⟨choice, hchoice, -⟩
  · rw [hnone] at h
    have hrefused : ∀ offer ∈ offers, ¬ Permitted p reservations offer.task := by
      intro offer hoffer hpermitted
      have hnone := List.filterMap_eq_nil_iff.mp hempty offer hoffer
      rw [Function.comp_apply, offered_eq_some.mpr ⟨hpermitted, rfl⟩] at hnone
      cases hnone
    refine ⟨hrefused, ?_⟩
    dsimp only at h
    split at h
    · rename_i hwaiting
      obtain ⟨reservation, hmem⟩ := List.exists_mem_of_ne_nil _ hwaiting
      obtain ⟨hdraining, hscoped⟩ := List.mem_filter.mp hmem
      obtain ⟨value, hvalue, hpolicy⟩ := List.mem_filterMap.mp hdraining
      obtain ⟨candidate, hcandidate, hmatches⟩ := List.any_eq_true.mp hscoped
      obtain ⟨offer, hoffer, rfl⟩ := List.mem_map.mp hcandidate
      cases value with
      | obj members =>
          dsimp only at hpolicy
          split at hpolicy
          · rename_i hdrains
            obtain rfl := Option.some.inj hpolicy
            exact ⟨members, hvalue, hdrains, offer, hoffer, hmatches⟩
          · cases hpolicy
      | _ => cases hpolicy
    · rw [fallback] at h
      dsimp only at h
      split at h
      · cases h
      · split at h <;> cases h
  · rw [hchoice] at h
    cases h

/-- The gate is exact where no lane with whitespace around it is all that a task matches by. -/
theorem gateExact_iff_lanesTrimmed (p : Platform) (offers : List Offer) (reservations : List Json)
    (reservedSharePackIds activePackIds : List String) :
    GateExact p offers reservations reservedSharePackIds activePackIds ↔
      LanesTrimmed p offers reservations := by
  constructor
  · rintro ⟨hagree, -, -⟩ offer hoffer reservation hmem hstripped
    have hscope : InScope p offer.task (.obj reservation) := inScope_iff.mpr (.inr hstripped)
    exact permitted_iff.mp ((hagree offer hoffer).mpr ⟨_, hmem, hscope⟩)
  · intro htrimmed
    have hagree : ∀ offer ∈ offers, Permitted p reservations offer.task ↔
        ∃ reservation ∈ reservations, InScope p offer.task reservation := by
      intro offer hoffer
      rw [permitted_iff]
      constructor
      · rintro ⟨reservation, hmem, hmatches⟩
        exact ⟨_, hmem, inScope_iff.mpr (.inl hmatches)⟩
      · rintro ⟨value, hmem, hscope⟩
        obtain ⟨reservation, rfl⟩ := obj_of_inScope hscope
        rcases inScope_iff.mp hscope with hmatches | hstripped
        · exact ⟨reservation, hmem, hmatches⟩
        · exact htrimmed offer hoffer reservation hmem hstripped
    exact ⟨hagree, selectsBest_of_agree hagree, waits_of_drainWait⟩

/-- A task whose vision lane is written with a blank in front. -/
def spacedOffer : Offer where
  task.executionContext :=
    .obj [("resource_requirements", .obj [("vision_lane", .str " gpu")])]
  task.packId := none
  packId := none

def groupReservation : Json :=
  .obj [("reservation_id", .str "hostres_a"),
    ("route_request", .obj [("resource_groups", .arr [.str "gpu"])])]

/-- The reservation is in scope of the task, and the task is not let through. -/
theorem spacedLane_not_exact :
    ¬ GateExact samplePlatform [spacedOffer] [groupReservation] [] [] := by
  intro hexact
  have hscope : InScope samplePlatform spacedOffer.task groupReservation := by
    decide +kernel
  have hpermitted : Permitted samplePlatform [groupReservation] spacedOffer.task :=
    (hexact.1 _ (List.mem_singleton_self _)).mpr ⟨_, List.mem_singleton_self _, hscope⟩
  have hrefused : ¬ Permitted samplePlatform [groupReservation] spacedOffer.task := by
    decide +kernel
  exact hrefused hpermitted

end MindscapeLocalCore.HostResources.RouteScopes
