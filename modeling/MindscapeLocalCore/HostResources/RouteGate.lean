import MindscapeLocalCore.HostResources.RouteReservations
import MindscapeLocalCore.Library.Sorting

/-!
The route gate: what identifies the route of a task, which reservations a candidate is let through
by, and which of several candidates is selected.
-/

namespace MindscapeLocalCore.HostResources.RouteGate

open Library Library.Json Library.PythonText ReservationStore RouteReservations

structure Task where
  executionContext : Json
  packId : Option String

/-- What `task_route_identity` returns. -/
structure RouteIdentity where
  laneId : Option String
  resourceGroups : List String
  priorityClass : String
  resourceFlavor : Option String
  packId : Option String
  playbookCode : Option String

structure Candidate where
  routeIdentity : RouteIdentity
  packId : Option Json

structure Match where
  reservation : Dict
  laneMatches : Bool
  groupMatches : Bool
  flavorMatches : Bool

structure RouteGateDecision where
  permit : Bool
  score : ℕ
  reason : Option String
  reservationId : Option String
  targetLane : Option String
  routeIdentity : RouteIdentity
  found : Option Match

/-- What `select_candidate_policy` returns. -/
structure Selection where
  selected : Option Candidate
  reason : String
  decision : Option RouteGateDecision
  drainWait : Bool
  reservations : List Dict

def priorityScores : List (String × ℕ) :=
  [("interactive_critical", 400), ("interactive_high", 300), ("interactive", 200), ("default", 100),
    ("background", 10)]

variable (p : Platform)

/-! ### Identities -/

/-- `str(value or "").strip()` -/
def strippedText (value : Option Json) : String := strip (textOr p "" value)

/-- `str(value).strip() if value else None` -/
def strippedIf (value : Option Json) : Option String :=
  match value with
  | none => none
  | some value => if value.truthy then some (strip (p.str value)) else none

/-- `str(value or "").strip() or None` -/
def strippedOrNone (value : Option Json) : Option String := cleanText (textOr p "" value)

def taskContext (task : Task) : Dict := dictOf (some task.executionContext)

def stringList : Option Json → List String
  | some (.arr items) => (items.map fun item => strip (p.str item)).filter (· ≠ "")
  | _ => []

def routeRequestFromContext (ctx : Dict) : Dict :=
  match ctx.get? "route_request" with
  | some (.obj routeRequest) => routeRequest
  | _ => dictOf ((ctx.get? "host_resource").bind (Json.get? · "route_request"))

def runtimeAffinityFromContext (ctx : Dict) : Dict :=
  match ctx.get? "runtime_affinity" with
  | some (.obj affinity) => affinity
  | some (.str raw) => if Blank raw then [] else [("runtime_id", .str (strip raw))]
  | _ => []

def resourceRequirementsFromContext (ctx : Dict) : Dict :=
  match ctx.get? "runner_resource_requirements", ctx.get? "resource_requirements" with
  | some (.obj requirements), _ => requirements
  | _, some (.obj requirements) => requirements
  | _, _ => dictOf ((ctx.get? "resource_admission").bind (Json.get? · "requirements"))

def resourceFlavorFromRuntimeAffinity (runtimeAffinity : Dict) : Option String :=
  let runtimeId := strippedText p (runtimeAffinity.get? "runtime_id")
  let transport := strippedText p (runtimeAffinity.get? "transport")
  let siteKey := strippedText p (runtimeAffinity.get? "site_key")
  if runtimeId = "" then none
  else if p.lower runtimeId ∈ ["local", "docker_local", "host"] then some "local.host"
  else if transport ≠ "" ∧ transport ∉ ["local", "docker_local"] then
    some ("external." ++ transport ++ "." ++ runtimeId)
  else if siteKey ≠ "" then some ("vm." ++ siteKey ++ "." ++ runtimeId)
  else some ("local." ++ runtimeId)

def laneNames (requirements : Dict) : List String :=
  [requirements.get? "vision_lane", requirements.get? "llm_lane"].filterMap fun lane =>
    (lane.filter Json.truthy).map p.str

def groupNames (routeRequest requirements : Dict) : List String :=
  stringList p (routeRequest.get? "resource_groups") ++
    stringList p (requirements.get? "exclusive_groups") ++ laneNames p requirements

def taskRouteIdentity (task : Task) : RouteIdentity :=
  let ctx := taskContext task
  let routeRequest := routeRequestFromContext ctx
  let requirements := resourceRequirementsFromContext ctx
  let runtimeAffinity := runtimeAffinityFromContext ctx
  let laneId := firstTruthy
    [routeRequest.get? "target_lane", ctx.get? "host_resource_lane_id", ctx.get? "runtime_lane_id",
      ctx.get? "lane_id", requirements.get? "vision_lane", requirements.get? "llm_lane"]
  let resourceFlavor := firstTruthy
    [routeRequest.get? "resource_flavor", ctx.get? "resource_flavor",
      runtimeAffinity.get? "resource_flavor",
      (resourceFlavorFromRuntimeAffinity p runtimeAffinity).map Json.str]
  let packId := task.packId.map Json.str
  { laneId := strippedIf p laneId
    resourceGroups := Sorting.sortBy (· ≤ ·) id (groupNames p routeRequest requirements).dedup
    priorityClass := textOr p "default"
      (firstTruthy [routeRequest.get? "priority_class", ctx.get? "priority_class"])
    resourceFlavor := strippedIf p resourceFlavor
    packId := strippedOrNone p
      (firstTruthy [packId, ctx.get? "pack_id", ctx.get? "playbook_code"])
    playbookCode := strippedOrNone p (firstTruthy [ctx.get? "playbook_code", packId]) }

/-! ### Scopes -/

def routeRequestFromReservation (reservation : Dict) : Dict :=
  dictOf (reservation.get? "route_request")

def targetLane (reservation : Dict) : String :=
  strippedText p ((routeRequestFromReservation reservation).get? "target_lane")

def reservationGroups (reservation : Dict) : List String :=
  stringList p ((routeRequestFromReservation reservation).get? "resource_groups")

def reservationFlavor (reservation : Dict) : String :=
  strippedText p ((routeRequestFromReservation reservation).get? "resource_flavor")

def flavorMatches (resourceFlavor : String) (reservation : Dict) : Bool :=
  resourceFlavor ≠ "" ∧ reservationFlavor p reservation ≠ "" ∧
    resourceFlavor = reservationFlavor p reservation

def vetoed (resourceFlavor : String) (reservation : Dict) : Bool :=
  reservationFlavor p reservation ≠ "" ∧ resourceFlavor ≠ "" ∧
    ¬ flavorMatches p resourceFlavor reservation = true

def intersects (groups others : List String) : Bool := groups.any (· ∈ others)

/-- `route_identity_matches_reservation_scope`, of an identity of a task, which names no other
lane. -/
def routeIdentityMatchesReservationScope (identity : RouteIdentity) (reservation : Json) : Bool :=
  match reservation with
  | .obj reservation =>
      let laneId := strip (identity.laneId.getD "")
      let groups := (identity.resourceGroups.map strip).filter (· ≠ "")
      let resourceFlavor := strip (identity.resourceFlavor.getD "")
      let laneMatches : Bool := targetLane p reservation ≠ "" ∧ laneId = targetLane p reservation
      let groupMatches := intersects groups (reservationGroups p reservation)
      if vetoed p resourceFlavor reservation then false
      else laneMatches || groupMatches || flavorMatches p resourceFlavor reservation
  | _ => false

/-! ### Decisions -/

def baseScore (identity : RouteIdentity) : ℕ :=
  (priorityScores.lookup identity.priorityClass).getD 100

def matchOf (identity : RouteIdentity) (reservation : Dict) : Match where
  reservation := reservation
  laneMatches := targetLane p reservation ≠ "" ∧ identity.laneId = some (targetLane p reservation)
  groupMatches := intersects identity.resourceGroups (reservationGroups p reservation)
  flavorMatches := flavorMatches p (strip (identity.resourceFlavor.getD "")) reservation

def matchScore (identity : RouteIdentity) (found : Match) : ℕ :=
  baseScore identity + (if found.laneMatches then 1000 else 500) +
    if found.flavorMatches then 250 else 0

def decisionOf (identity : RouteIdentity) (found : Match) : RouteGateDecision where
  permit := true
  score := matchScore identity found
  reason := none
  reservationId := some (textOr p "" (found.reservation.get? "reservation_id"))
  targetLane := if targetLane p found.reservation ≠ "" then some (targetLane p found.reservation)
    else identity.laneId
  routeIdentity := identity
  found := some found

/-- One reservation of the loop of `evaluate_route_identity_candidate`. -/
def considerReservation (identity : RouteIdentity) (best : RouteGateDecision) (reservation : Json) :
    RouteGateDecision :=
  match reservation with
  | .obj reservation =>
      let found := matchOf p identity reservation
      if vetoed p (strip (identity.resourceFlavor.getD "")) reservation then best
      else if ¬ found.laneMatches ∧ ¬ found.groupMatches ∧ ¬ found.flavorMatches then best
      else if matchScore identity found ≤ best.score ∧ best.permit then best
      else decisionOf p identity found
  | _ => best

def noMatch (identity : RouteIdentity) : RouteGateDecision where
  permit := false
  score := baseScore identity
  reason := some "no_matching_route_reservation"
  reservationId := none
  targetLane := identity.laneId
  routeIdentity := identity
  found := none

def evaluateRouteIdentityCandidate (identity : RouteIdentity) (reservations : List Json) :
    RouteGateDecision :=
  reservations.foldl (considerReservation p identity) (noMatch identity)

/-! ### Selection -/

def drainPolicy (reservation : Dict) : String :=
  let routeRequest := routeRequestFromReservation reservation
  p.lower (strip (textOr p ""
    (firstTruthy [routeRequest.get? "drain_policy", reservation.get? "drain_policy"])))

def drainAfterCurrentReservations (reservations : List Json) : List Dict :=
  reservations.filterMap fun reservation =>
    match reservation with
    | .obj reservation =>
        if drainPolicy p reservation = "drain_after_current" then some reservation else none
    | _ => none

def drainAfterCurrentReservationsForCandidates (candidates : List Candidate)
    (reservations : List Json) : List Dict :=
  (drainAfterCurrentReservations p reservations).filter fun reservation =>
    candidates.any fun candidate =>
      routeIdentityMatchesReservationScope p candidate.routeIdentity (.obj reservation)

/-- One candidate of the loop of `select_candidate_policy`. -/
def considerCandidate (reservations : List Json) (best : Option (Candidate × RouteGateDecision))
    (candidate : Candidate) : Option (Candidate × RouteGateDecision) :=
  let decision := evaluateRouteIdentityCandidate p candidate.routeIdentity reservations
  if ¬ decision.permit then best
  else
    match best with
    | none => some (candidate, decision)
    | some old => if old.2.score < decision.score then some (candidate, decision) else some old

def candidatePack (candidate : Candidate) : String := textOr p "" candidate.packId

def packNames (packIds : List String) : List String := packIds.filter fun packId => ¬ Blank packId

def fallback (candidates : List Candidate) (reservedSharePackIds activePackIds : List String) :
    Selection :=
  let preferred := packNames reservedSharePackIds
  let active := packNames activePackIds
  match candidates.find? fun candidate => candidatePack p candidate ∈ preferred with
  | some candidate => ⟨some candidate, "reserved_share", none, false, []⟩
  | none =>
      let diverse := candidates.find? fun candidate =>
        active ≠ [] ∧ candidatePack p candidate ≠ "" ∧ candidatePack p candidate ∉ active
      match diverse with
      | some candidate => ⟨some candidate, "playbook_diversity", none, false, []⟩
      | none => ⟨none, "fifo_fallback", none, false, []⟩

def selectCandidatePolicy (candidates : List Candidate) (reservations : List Json)
    (reservedSharePackIds activePackIds : List String) : Selection :=
  match candidates.foldl (considerCandidate p reservations) none with
  | some (candidate, decision) => ⟨some candidate, "route_reservation", some decision, false, []⟩
  | none =>
      let draining := drainAfterCurrentReservationsForCandidates p candidates reservations
      if draining ≠ [] then ⟨none, "drain_after_current_wait", none, true, draining⟩
      else fallback p candidates reservedSharePackIds activePackIds

end MindscapeLocalCore.HostResources.RouteGate
