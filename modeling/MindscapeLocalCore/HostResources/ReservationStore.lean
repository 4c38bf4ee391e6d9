import Mathlib.Algebra.Order.Ring.Int
import Mathlib.Data.List.Sort
import Mathlib.Data.Prod.Lex
import MindscapeLocalCore.Library.Json
import MindscapeLocalCore.Library.PythonText
import MindscapeLocalCore.Library.Table
/-!
The durable ledger of host resource reservations: rows that are written under their
reservation id, and events that are only added. Times are whole microseconds.
-/

namespace MindscapeLocalCore.HostResources.ReservationStore

open Library.Json Library.PythonText Library.Table

abbrev Timestamp := ℤ

/-- `datetime.isoformat` and `datetime.fromisoformat` in UTC, `str` and `int` of a JSON
value, where `int` may raise, and `str.lower`. -/
structure Platform where
  isoformat : Timestamp → String
  fromisoformat : String → Option Timestamp
  str : Json → String
  int : Json → Option ℤ
  lower : String → String
  fromisoformat_isoformat : ∀ time, fromisoformat (isoformat time) = some time
  not_blank_isoformat : ∀ time, ¬ Blank (isoformat time)
  str_text : ∀ text, str (.str text) = text

/-! ### Values -/

/-- `str(value).strip() or None`. -/
def cleanText (text : String) : Option String :=
  if strip text = "" then none else some (strip text)

variable (p : Platform)

def cleanString : Option Json → Option String
  | none | some .null => none
  | some value => cleanText (p.str value)

/-- `str(value or default)`. -/
def textOr (default : String) : Option Json → String
  | none => default
  | some value => if value.truthy then p.str value else default

/-- `_parse_datetime` and `parse_datetime`. -/
def parseDatetime : Option Json → Option Timestamp
  | some (.str text) => if Blank text then none else p.fromisoformat text
  | _ => none

def toIsoformat : Option Timestamp → Json
  | none => .null
  | some time => .str (p.isoformat time)

/-- `value if isinstance(value, dict) else {}`. -/
def dictOf : Option Json → Dict
  | some (.obj members) => members
  | _ => []

/-! ### Rows and events -/

/-- The columns that are copied out of the route request are not read here. -/
structure Row where
  reservationId : String
  state : String
  routeRequest : Dict
  metadata : Dict
  createdAt : Timestamp
  updatedAt : Timestamp
  expiresAt : Option Timestamp
  cancelledAt : Option Timestamp
  completedAt : Option Timestamp

structure Event where
  reservationId : Option String
  eventType : String
  occurredAt : Timestamp
  source : Option String
  actor : Option String
  laneId : Option String
  payload : Json

def rowToReservation (row : Row) : Dict :=
  let reservation : Dict :=
    [("created_at", .str (p.isoformat row.createdAt)),
      ("expires_at", toIsoformat p row.expiresAt),
      ("reservation_id", .str row.reservationId),
      ("route_request", .obj row.routeRequest),
      ("state", .str row.state),
      ("updated_at", .str (p.isoformat row.updatedAt))]
  let reservation := match row.cancelledAt with
    | none => reservation
    | some time => reservation.set "cancelled_at" (.str (p.isoformat time))
  let reservation := match row.completedAt with
    | none => reservation
    | some time => reservation.set "completed_at" (.str (p.isoformat time))
  if row.metadata.isEmpty then reservation
  else reservation.set "metadata" (.obj row.metadata)

/-! ### Transactions -/

def Row.cancelled (time : Timestamp) (row : Row) : Row :=
  { row with state := "cancelled", cancelledAt := some time, updatedAt := time }

/-- `cancel_reservation`: the row under the id is written whatever its state is. -/
def cancelReservation (now : Timestamp) (reservationId : String) (cancelledAt : Option Json)
    (rows : List Row) : Option Row × List Row :=
  let time := (parseDatetime p cancelledAt).getD now
  ((lookup Row.reservationId reservationId rows).map (Row.cancelled time),
    amend Row.reservationId reservationId (Row.cancelled time) rows)

def appendEvent (now : Timestamp) (eventType reservationId : String) (payload : Json)
    (source actor laneId : String) (events : List Event) : List Event :=
  events ++
    [{ reservationId := cleanText reservationId
       eventType := strip eventType
       occurredAt := now
       source := cleanText source
       actor := cleanText actor
       laneId := cleanText laneId
       payload }]

/-! ### What a transaction leaves -/

variable {p} {now time : Timestamp} {reservationId : String} {row : Row} {rows : List Row}
  {reservation : Dict}

theorem cleanText_eq_some {text cleaned : String} (h : cleanText text = some cleaned) :
    strip text = cleaned := by
  rw [cleanText] at h
  split at h
  · cases h
  · exact Option.some.inj h

theorem get?_rowToReservation {key : String} (hcancelled : key ≠ "cancelled_at")
    (hcompleted : key ≠ "completed_at") (hmetadata : key ≠ "metadata") :
    (rowToReservation p row).get? key =
      Dict.get? [("created_at", .str (p.isoformat row.createdAt)),
        ("expires_at", toIsoformat p row.expiresAt),
        ("reservation_id", .str row.reservationId),
        ("route_request", .obj row.routeRequest),
        ("state", .str row.state),
        ("updated_at", .str (p.isoformat row.updatedAt))] key := by
  rw [rowToReservation]
  cases row.cancelledAt <;> cases row.completedAt <;> cases row.metadata.isEmpty <;>
    simp [Dict.get?_set_of_ne, hcancelled, hcompleted, hmetadata]

@[simp] theorem routeRequest_rowToReservation :
    (rowToReservation p row).get? "route_request" = some (.obj row.routeRequest) :=
  get?_rowToReservation (by decide) (by decide) (by decide)

end MindscapeLocalCore.HostResources.ReservationStore
