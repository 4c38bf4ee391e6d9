import MindscapeLocalCore.HostResources.ReservationStore
import MindscapeLocalCore.Library.Guarded
import MindscapeLocalCore.Library.Hex
import MindscapeLocalCore.Library.ItemDict
/-!
Route reservations of processes that share a cache and a ledger. Each process keeps a map
of its own: listing merges the shared map into it, and each call that changes a
reservation writes the ledger, the events, its own map and the shared one in that order.
-/

namespace MindscapeLocalCore.HostResources.RouteReservations

open ReservationStore Library.Guarded Library.ItemDict Library.Json

/-- Whether the ledger is enabled, `STATE_TTL_SECONDS`, and the default user where it can
be read. -/
structure Settings where
  ledgerEnabled : Bool
  stateTtlSeconds : ℤ
  defaultUserId : Option String

structure AuthContext where
  userId : String
  tenantId : String
  workspaceIds : List String

inductive ReservationError
  | httpException (statusCode : ℕ) (detail : Dict)
  | attributeError
  | overflowError (message : String)

/-- The ledger with its events, the value under `ROUTE_RESERVATIONS_KEY`, and
`_route_reservations` of each process. -/
structure System where
  reservations : List Row
  events : List Event
  cached : Option Json
  routeReservations : ℕ → List (String × Dict)

def System.initial : System := ⟨[], [], none, fun _ => []⟩

variable (p : Platform) (settings : Settings)

/-! ### Access -/

def globalAdminAliases : List String := ["default_user", "default-user"]

def isGlobalResourceAdmin (authContext : AuthContext) : Bool :=
  match cleanText authContext.userId with
  | none => false
  | some userId =>
      userId ∈ globalAdminAliases ||
        settings.defaultUserId.any fun text => cleanText text = some userId

def workspaceIdRequired : ReservationError :=
  .httpException 400 [("reason", .str "workspace_id_required")]

def workspaceAccessDenied (workspaceId : String) : ReservationError :=
  .httpException 403
    [("reason", .str "workspace_resource_access_denied"), ("workspace_id", .str workspaceId)]

def requireWorkspaceResourceAccess (authContext : AuthContext) (workspaceId : Option String) :
    Except ReservationError String :=
  match workspaceId.bind cleanText with
  | none => .error workspaceIdRequired
  | some workspaceId =>
      if isGlobalResourceAdmin settings authContext then .ok workspaceId
      else if workspaceId ∈ authContext.workspaceIds.filterMap cleanText then .ok workspaceId
      else .error (workspaceAccessDenied workspaceId)

def globalResourceAdminRequired : ReservationError :=
  .httpException 403 [("reason", .str "global_resource_admin_required")]

/-- The check of `cancel_route_reservation`; a reservation without a route request ends
with the error of `None.get`. -/
def authorizeCancel (authContext : Option AuthContext) (reservation : Dict) :
    Except ReservationError Unit :=
  match authContext with
  | none => .ok ()
  | some authContext =>
      match reservation.get? "route_request" with
      | some (.obj routeRequest) =>
          match cleanString p (Dict.get? routeRequest "workspace_id") with
          | some workspaceId => do
              let _ ← requireWorkspaceResourceAccess settings authContext (some workspaceId)
          | none =>
              require (isGlobalResourceAdmin settings authContext = true)
                globalResourceAdminRequired
      | _ => .error .attributeError

/-! ### The ledger and the two maps -/

def readJsonMap : Option Json → List (String × Json)
  | some (.obj members) => members
  | _ => []

def appendReservationEvent (now : Timestamp) (eventType : String) (reservation payload : Dict)
    (system : System) : System :=
  if settings.ledgerEnabled then
    let routeRequest := dictOf (reservation.get? "route_request")
    { system with
      events := appendEvent now eventType
        (textOr p "" (reservation.get? "reservation_id")) (.obj payload) "host_resource_manager"
        (textOr p "" (routeRequest.get? "requested_by"))
        (textOr p "" (routeRequest.get? "target_lane")) system.events }
  else system

/-- The update of `cancel_reservation` where there is a ledger. -/
def cancelDurable (now : Timestamp) (reservationId : String) (cancelledAt : Option Json)
    (system : System) : Option Dict × System :=
  if settings.ledgerEnabled then
    let (row, rows) := cancelReservation p now reservationId cancelledAt system.reservations
    (row.map (rowToReservation p), { system with reservations := rows })
  else (none, system)

def writeRouteProjection (process : ℕ) (reservation : Dict) (system : System) : System :=
  let reservationId := textOr p "" (reservation.get? "reservation_id")
  if reservationId = "" then system
  else
    { system with
      routeReservations := Function.update system.routeReservations process
        (setItem reservationId reservation (system.routeReservations process))
      cached := some (.obj (setItem reservationId (.obj reservation)
        (readJsonMap system.cached))) }

/-! ### Creating -/

def firstTruthy : List (Option Json) → Option Json
  | [] => none
  | [value] => value
  | value :: rest => if value.any Json.truthy then value else firstTruthy rest

/-! ### Cancelling -/

/-- The reservation in the map of the process or in the shared one; an empty entry counts
as none. -/
def projected (process : ℕ) (reservationId : String) (system : System) : Option Dict :=
  match getItem reservationId (system.routeReservations process) with
  | some (member :: rest) => some (member :: rest)
  | _ =>
      match getItem reservationId (readJsonMap system.cached) with
      | some (.obj (member :: rest)) => some (member :: rest)
      | _ => none

/-- What is found, where the ledger is asked last, with the update of a cancellation. -/
def findReservation (process : ℕ) (reservationId : String) (now : Timestamp) (system : System) :
    Option Dict × System :=
  match projected process reservationId system with
  | some reservation => (some reservation, system)
  | none => cancelDurable p settings now reservationId none system

def cancelledReservation (time : Timestamp) (reservation : Dict) : Dict :=
  ((reservation.set "state" (.str "cancelled")).set "cancelled_at"
    (.str (p.isoformat time))).set "updated_at" (.str (p.isoformat time))

/-- The part of `cancel_route_reservation` after the check. -/
def writeCancellation (process : ℕ) (reservationId : String) (reservation : Dict)
    (time : Timestamp) (system : System) : Dict × System :=
  let reservation := cancelledReservation p time reservation
  let (durable, system) :=
    cancelDurable p settings time reservationId (some (.str (p.isoformat time))) system
  let reservation := reservation.update (durable.getD [])
  let system := appendReservationEvent p settings time "reservation_cancelled" reservation
    [("reservation_id", .str reservationId)] system
  let reservation := reservation.set "ledger_persisted" (.bool durable.isSome)
  (reservation, writeRouteProjection p process reservation system)

def notFound (reservationId : String) : Dict :=
  [("reservation_id", .str reservationId), ("state", .str "not_found")]

/-- `cancel_route_reservation`; the clock is read once for the lookup in the ledger and
once after the check. -/
def cancelRouteReservation (process : ℕ) (reservationId : String)
    (authContext : Option AuthContext) (lookedUpAt cancelledAt : Timestamp) (system : System) :
    Except ReservationError Dict × System :=
  match findReservation p settings process reservationId lookedUpAt system with
  | (none, system) => (.ok (notFound reservationId), system)
  | (some reservation, system) =>
      match authorizeCancel p settings authContext reservation with
      | .error e => (.error e, system)
      | .ok () =>
          let (reservation, system) :=
            writeCancellation p settings process reservationId reservation cancelledAt system
          (.ok reservation, system)

end MindscapeLocalCore.HostResources.RouteReservations
