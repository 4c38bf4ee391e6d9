import MindscapeLocalCore.HostResources.RouteReservations
/-!
A cancellation that is refused: the reservation is looked up in the map of the process, in
the shared map and then by the update of the ledger, and the caller is checked after that.
-/

namespace MindscapeLocalCore.HostResources.ReservationCancels

open ReservationStore RouteReservations Library.Json Library.PythonText Library.Table

variable (p : Platform) (settings : Settings)

/-- A call that raises leaves the ledger, the events and the maps as they were. -/
def RefusalChangesNothing (process : ℕ) (reservationId : String)
    (authContext : Option AuthContext) (lookedUpAt cancelledAt : Timestamp) (system : System) :
    Prop :=
  ∀ e system', cancelRouteReservation p settings process reservationId authContext lookedUpAt
    cancelledAt system = (.error e, system') → system' = system

/-- The row is as the update of the ledger would write it. -/
def CancelledAt (time : Timestamp) (row : Row) : Prop :=
  row.state = "cancelled" ∧ row.cancelledAt = some time ∧ row.updatedAt = time

/-- Neither map has the reservation, and the ledger has a row that the caller may not
cancel and that is not as the update would write it. -/
structure FoundByUpdate (process : ℕ) (reservationId : String)
    (authContext : Option AuthContext) (lookedUpAt : Timestamp) (system : System) : Prop where
  unprojected : projected process reservationId system = none
  ledger : settings.ledgerEnabled = true
  refused : ∃ row e, lookup Row.reservationId reservationId system.reservations = some row ∧
    authorizeCancel p settings authContext (rowToReservation p row) = .error e
  changed : ∃ row ∈ system.reservations,
    row.reservationId = reservationId ∧ ¬ CancelledAt lookedUpAt row

variable {p} {settings} {process : ℕ} {reservationId : String}
  {authContext : Option AuthContext} {now lookedUpAt cancelledAt time : Timestamp}
  {system : System} {row : Row}

theorem cancelled_eq_self : row.cancelled time = row ↔ CancelledAt time row := by
  obtain ⟨id, state, routeRequest, metadata, createdAt, updatedAt, expiresAt, cancelledAt, done⟩ :=
    row
  simp only [Row.cancelled, CancelledAt, Row.mk.injEq, true_and, and_true]
  constructor
  · rintro ⟨rfl, rfl, rfl⟩
    exact ⟨rfl, rfl, rfl⟩
  · rintro ⟨rfl, rfl, rfl⟩
    exact ⟨rfl, rfl, rfl⟩

theorem authorizeCancel_cancelled :
    authorizeCancel p settings authContext (rowToReservation p (row.cancelled time)) =
      authorizeCancel p settings authContext (rowToReservation p row) := by
  cases authContext with
  | none => rfl
  | some authContext =>
      simp only [authorizeCancel, routeRequest_rowToReservation]
      rfl

theorem cancelDurable_disabled {given : Option Json} (h : settings.ledgerEnabled = false) :
    cancelDurable p settings now reservationId given system = (none, system) := by
  rw [cancelDurable, h]
  rfl

theorem cancelDurable_enabled (h : settings.ledgerEnabled = true) :
    cancelDurable p settings now reservationId none system =
      ((lookup Row.reservationId reservationId system.reservations).map fun row =>
          rowToReservation p (row.cancelled now),
        { system with
          reservations :=
            amend Row.reservationId reservationId (Row.cancelled now) system.reservations }) := by
  rw [cancelDurable, h]
  change ((Option.map (Row.cancelled now) _).map (rowToReservation p), _) = _
  rw [Option.map_map]
  rfl

theorem system_eq_iff {rows : List Row} :
    { system with reservations := rows } = system ↔ rows = system.reservations := by
  obtain ⟨reservations, events, cached, routeReservations⟩ := system
  simp

theorem amended_eq_iff :
    { system with
        reservations :=
          amend Row.reservationId reservationId (Row.cancelled time) system.reservations } =
        system ↔
      ∀ row ∈ system.reservations, row.reservationId = reservationId → CancelledAt time row := by
  rw [system_eq_iff, amend_eq_self_iff]
  simp only [cancelled_eq_self]

theorem refusalChangesNothing_of_projected {reservation : Dict}
    (h : projected process reservationId system = some reservation) :
    RefusalChangesNothing p settings process reservationId authContext lookedUpAt cancelledAt
      system := by
  intro e system' hcall
  simp only [cancelRouteReservation, findReservation, h] at hcall
  split at hcall
  · exact (Prod.mk.inj hcall).2.symm
  · exact absurd (Prod.mk.inj hcall).1 (by simp)

theorem findReservation_of_unprojected (h : projected process reservationId system = none) :
    findReservation p settings process reservationId now system =
      cancelDurable p settings now reservationId none system := by
  rw [findReservation, h]

theorem cancelRouteReservation_of_unprojected (lookedUpAt cancelledAt : Timestamp)
    (hprojected : projected process reservationId system = none)
    (hledger : settings.ledgerEnabled = true) {e : ReservationError}
    (hrow : lookup Row.reservationId reservationId system.reservations = some row)
    (hrefused : authorizeCancel p settings authContext (rowToReservation p row) = .error e) :
    cancelRouteReservation p settings process reservationId authContext lookedUpAt cancelledAt
        system =
      (.error e,
        { system with
          reservations := amend Row.reservationId reservationId (Row.cancelled lookedUpAt)
            system.reservations }) := by
  simp only [cancelRouteReservation, findReservation_of_unprojected hprojected,
    cancelDurable_enabled hledger, hrow, Option.map_some, authorizeCancel_cancelled, hrefused]

theorem not_refusalChangesNothing
    (h : FoundByUpdate p settings process reservationId authContext lookedUpAt system) :
    ¬ RefusalChangesNothing p settings process reservationId authContext lookedUpAt cancelledAt
      system := by
  intro hharmless
  obtain ⟨row, e, hrow, hrefused⟩ := h.refused
  obtain ⟨changed, hmem, hid, hchanged⟩ := h.changed
  have hsame := hharmless e _
    (cancelRouteReservation_of_unprojected lookedUpAt cancelledAt h.unprojected h.ledger hrow hrefused)
  exact hchanged (amended_eq_iff.mp hsame changed hmem hid)

theorem refusalChangesNothing_of_not_foundByUpdate
    (h : ¬ FoundByUpdate p settings process reservationId authContext lookedUpAt system) :
    RefusalChangesNothing p settings process reservationId authContext lookedUpAt cancelledAt
      system := by
  cases hprojected : projected process reservationId system with
  | some reservation => exact refusalChangesNothing_of_projected hprojected
  | none =>
      intro e system' hcall
      cases hledger : settings.ledgerEnabled with
      | false =>
          simp [cancelRouteReservation, findReservation_of_unprojected hprojected,
            cancelDurable_disabled hledger] at hcall
      | true =>
          cases hrow : lookup Row.reservationId reservationId system.reservations with
          | none =>
              simp [cancelRouteReservation, findReservation_of_unprojected hprojected,
                cancelDurable_enabled hledger, hrow] at hcall
          | some row =>
              cases hcheck : authorizeCancel p settings authContext (rowToReservation p row) with
              | ok =>
                  simp [cancelRouteReservation, findReservation_of_unprojected hprojected,
                    cancelDurable_enabled hledger, hrow, authorizeCancel_cancelled, hcheck] at hcall
              | error refused =>
                  rw [cancelRouteReservation_of_unprojected lookedUpAt cancelledAt hprojected hledger hrow
                    hcheck] at hcall
                  rw [← (Prod.mk.inj hcall).2, amended_eq_iff]
                  intro row' hmem hid
                  by_contra hchanged
                  exact h ⟨hprojected, hledger, ⟨row, refused, hrow, hcheck⟩,
                    ⟨row', hmem, hid, hchanged⟩⟩

/-- For every state, reservation and caller: a call that raises changes nothing, except
where the reservation is first found by the update of the ledger. -/
theorem refusal_changes_nothing_iff (p : Platform) (settings : Settings) (process : ℕ)
    (reservationId : String) (authContext : Option AuthContext)
    (lookedUpAt cancelledAt : Timestamp) (system : System) :
    RefusalChangesNothing p settings process reservationId authContext lookedUpAt cancelledAt
        system ↔
      ¬ FoundByUpdate p settings process reservationId authContext lookedUpAt system :=
  ⟨fun hharmless hfound => not_refusalChangesNothing hfound hharmless,
    refusalChangesNothing_of_not_foundByUpdate⟩

/-! ### A reservation of another workspace -/

def sampleTimes : List (Timestamp × String) :=
  [(0, "1970-01-01T00:00:00+00:00"), (60000000, "1970-01-01T00:01:00+00:00"),
    (120000000, "1970-01-01T00:02:00+00:00"), (3600000000, "1970-01-01T01:00:00+00:00")]

def printed (time : Timestamp) : String :=
  match sampleTimes.find? fun sample => decide (sample.1 = time) with
  | some sample => sample.2
  | none => String.ofList ((if 0 ≤ time then '+' else '-') :: List.replicate time.natAbs '0')

def scanned (text : String) : Option Timestamp :=
  match sampleTimes.find? fun sample => decide (sample.2 = text) with
  | some sample => some sample.1
  | none =>
      match text.toList with
      | '+' :: tally => some tally.length
      | '-' :: tally => some (-tally.length)
      | _ => none

theorem find?_sampleTimes : ∀ sample ∈ sampleTimes,
    sampleTimes.find? (fun other => decide (other.2 = sample.2)) = some sample := by decide

theorem head_sampleTimes : ∀ sample ∈ sampleTimes, sample.2.toList.head? = some '1' := by decide

theorem scanned_tally (sign : Char) (tally : List Char) (hsign : sign ≠ '1') :
    scanned (String.ofList (sign :: tally)) =
      match sign :: tally with
      | '+' :: tally => some (tally.length : ℤ)
      | '-' :: tally => some (-tally.length)
      | _ => none := by
  have hnone : sampleTimes.find?
      (fun other => decide (other.2 = String.ofList (sign :: tally))) = none := by
    rw [List.find?_eq_none]
    intro sample hmem hsame
    have hhead := head_sampleTimes sample hmem
    rw [of_decide_eq_true hsame, String.toList_ofList] at hhead
    exact hsign (Option.some.inj hhead)
  rw [scanned, hnone]
  simp only [String.toList_ofList]

theorem scanned_printed (time : Timestamp) : scanned (printed time) = some time := by
  rw [printed]
  split
  · rename_i sample hfound
    have hmem := List.mem_of_find?_eq_some hfound
    have htime : sample.1 = time := by simpa using List.find?_some hfound
    rw [scanned, find?_sampleTimes sample hmem, ← htime]
  · split
    · rename_i hsign
      rw [scanned_tally _ _ (by decide)]
      simp [abs_of_nonneg hsign]
    · rename_i hsign
      rw [scanned_tally _ _ (by decide)]
      simp [abs_of_neg (not_le.mp hsign)]

theorem not_blank_printed (time : Timestamp) : ¬ Blank (printed time) := by
  rw [printed]
  split
  · rename_i sample hfound
    exact (by decide : ∀ sample ∈ sampleTimes, ¬ Blank sample.2) sample
      (List.mem_of_find?_eq_some hfound)
  · intro hblank
    have hspace := hblank (if 0 ≤ time then '+' else '-') (by simp)
    split at hspace <;> exact absurd hspace (by decide)

def samplePlatform : Platform where
  isoformat := printed
  fromisoformat := scanned
  str value := value.str?.getD "None"
  int
    | .num (.int value) => some value
    | _ => none
  lower text := text
  fromisoformat_isoformat := scanned_printed
  not_blank_isoformat := not_blank_printed
  str_text _ := rfl

def sampleSettings : Settings := ⟨true, 3600, some "default-user"⟩

def sampleRow : Row where
  reservationId := "hostres_a"
  state := "reserved_waiting"
  routeRequest := [("workspace_id", .str "w1")]
  metadata := []
  createdAt := 0
  updatedAt := 0
  expiresAt := some 3600000000
  cancelledAt := none
  completedAt := none

def ledgerOnly : System := { System.initial with reservations := [sampleRow] }

def outsider : AuthContext := ⟨"someone", "t", []⟩

theorem foundByUpdate_ledgerOnly :
    FoundByUpdate samplePlatform sampleSettings 0 "hostres_a" (some outsider) 60000000
      ledgerOnly where
  unprojected := rfl
  ledger := rfl
  refused := ⟨sampleRow, workspaceAccessDenied "w1", rfl, by
    rw [authorizeCancel, routeRequest_rowToReservation]
    rfl⟩
  changed := ⟨sampleRow, List.mem_singleton_self _, rfl, fun h => absurd h.1 (by decide)⟩

/-- A caller without access to the workspace cancels the row and is refused after that. -/
theorem refused_and_cancelled :
    ¬ RefusalChangesNothing samplePlatform sampleSettings 0 "hostres_a" (some outsider) 60000000
      120000000 ledgerOnly :=
  not_refusalChangesNothing foundByUpdate_ledgerOnly

end MindscapeLocalCore.HostResources.ReservationCancels
