import DialARide.Proofs.FleetSearch
import DialARide.Proofs.Travel

/-!
# Waiting at a stop

A request that boards during a planned stop at its origin may hold the vehicle up there until its
earliest start. The slack of that stop speaks about what comes after it only, so the search does not
look at the latest departure of the stop itself: an offer keeps it exactly when the request may
start before it (`Search.boarding_departure`).
-/

namespace DialARide

variable {α : Type} [Scalar α]

/-! ## 1. Boarding during a stop -/

/-- A request that boards during a stop at its origin only waits for its earliest start. -/
theorem Timing.departureFrom_stop {stopDuration : α} {request : Request α} {stop : Stop α}
    {legs : Legs α} (boards : stop.location = request.origin) :
    departureFrom stopDuration request (.stop stop) legs
      = Scalar.max stop.task.departure request.times.earliestStart :=
  if_pos ⟨rfl, boards⟩

/-- An offer is timed from the waypoint after which its pickup lies. -/
theorem Search.Prices.departure_stop {s : Search α} {request : Request α} {entry : Entry α}
    {insertion : Insertion} {offer : Scored α} {stop : Stop α}
    (prices : s.Prices request entry insertion offer)
    (hstop : entry.waypoint offer.pickup = .ok (.stop stop))
    (boards : stop.location = request.origin) :
    offer.timing.pickupDeparture
      = Scalar.max stop.task.departure request.times.earliestStart := by
  obtain ⟨-, hp, -, legs, slack, -, ht, -, -⟩ := prices
  rw [hp] at hstop
  rw [Timing.pickupDeparture_eq ht hstop, Timing.departureFrom_stop boards]

/-! ## 2. The latest departure of the stop -/

section Exact

variable {K : Type} [Field K] [LinearOrder K]

/-- **An offer that boards during a stop keeps the latest departure of that stop exactly when the
request may start by then**, whatever the slack of the stop is. -/
theorem Search.boarding_departure {s : Search (Exact K)} {request : Request (Exact K)}
    {entry : Entry (Exact K)} {found : List (Scored (Exact K))} {offer : Scored (Exact K)}
    {stop : Stop (Exact K)} (returned : s.evaluateVehicle request entry = .ok found)
    (hoffer : offer ∈ found) (hstop : entry.waypoint offer.pickup = .ok (.stop stop))
    (boards : stop.location = request.origin)
    (onTime : stop.task.departure ≤ stop.task.latestDeparture)
    (starts : request.times.earliestStart.isDefined) :
    offer.timing.pickupDeparture
        = Scalar.max stop.task.departure request.times.earliestStart ∧
      (offer.timing.pickupDeparture ≤ stop.task.latestDeparture ↔
        request.times.earliestStart ≤ stop.task.latestDeparture) := by
  obtain ⟨⟨insertion, -, prices⟩, -⟩ := (mem_of_evaluateVehicle_eq_ok returned).mp hoffer
  have hdeparture := prices.departure_stop hstop boards
  refine ⟨hdeparture, ?_⟩
  rw [hdeparture, Exact.max_le_iff onTime.1 starts]
  exact and_iff_right onTime

end Exact

namespace Sample

/-- A stop at the origin of a request, to be left by time 150. -/
def boardingStop : Stop (Exact ℚ) := ⟨1, ⟨.finite 100, .finite 130, .posInf, .finite 150⟩, 0⟩

/-- A vehicle on its way to the stop, with someone aboard who alights there. -/
def boardingStart : Start (Exact ℚ) := { start with occupancy := 1 }

/-- The entry of the vehicle. -/
def boardingEntry : Entry (Exact ℚ) :=
  ⟨vehicle, boardingStart, [boardingStop],
    slackTimes boardingStart [boardingStop] vehicle.serviceEnd⟩

/-- From location 1 to location 2, at time 500 or later. -/
def lateRequest : Request (Exact ℚ) := ⟨"r0", 1, 2, 1, ⟨.finite 500, .posInf, .posInf⟩⟩

/-- The search with either strategy. -/
def searchBy (choice : StrategyChoice) : Search (Exact ℚ) :=
  { search with strategy := choice.strategy }

theorem built_boardingEntry :
    Entry.ofServiceEnd? vehicle boardingStart [boardingStop] = .ok boardingEntry := rfl

theorem departure_boardingStop :
    boardingStop.task.departure ≤ boardingStop.task.latestDeparture :=
  Exact.finite_le_finite.mpr (by norm_num)

/-- The request waits at the stop until time 500, with whichever strategy. -/
theorem exists_lateOffer (choice : StrategyChoice) : ∃ found offer,
    (searchBy choice).evaluateVehicle lateRequest boardingEntry = .ok found ∧ offer ∈ found ∧
      boardingEntry.waypoint offer.pickup = .ok (.stop boardingStop) := by
  refine ⟨_, _, rfl, ranked_perm.mem_iff.mpr (List.mem_filter.mpr ⟨List.mem_cons_self, ?_⟩), rfl⟩
  cases choice <;> decide +kernel

end Sample

/-- The offer leaves the stop at the earliest start of the request. -/
theorem Search.boarding_departure_sample :
    ∃ found offer,
      ((Sample.searchBy .reject).evaluateVehicle Sample.lateRequest Sample.boardingEntry
          = .ok found ∧
        offer ∈ found ∧
        Sample.boardingEntry.waypoint offer.pickup = .ok (.stop Sample.boardingStop) ∧
        Sample.boardingStop.location = Sample.lateRequest.origin ∧
        Sample.boardingStop.task.departure ≤ Sample.boardingStop.task.latestDeparture ∧
        Sample.lateRequest.times.earliestStart.isDefined = true) ∧
      offer.timing.pickupDeparture = Scalar.max Sample.boardingStop.task.departure
        Sample.lateRequest.times.earliestStart ∧
      (offer.timing.pickupDeparture ≤ Sample.boardingStop.task.latestDeparture ↔
        Sample.lateRequest.times.earliestStart ≤ Sample.boardingStop.task.latestDeparture) := by
  obtain ⟨found, offer, returned, hoffer, hstop⟩ := Sample.exists_lateOffer .reject
  exact ⟨found, offer, ⟨returned, hoffer, hstop, rfl, Sample.departure_boardingStop, rfl⟩,
    Search.boarding_departure returned hoffer hstop rfl Sample.departure_boardingStop rfl⟩

/-- An offer may leave the stop at which it boards after its latest departure, whichever strategy
is chosen. -/
theorem Search.boarding_departure_late :
    Entry.ofServiceEnd? Sample.vehicle Sample.boardingStart [Sample.boardingStop]
        = .ok Sample.boardingEntry ∧
      (∀ choice, (Sample.searchBy choice).driveTime.IsNonnegative) ∧
      Sample.boardingStop.location = Sample.lateRequest.origin ∧
      Sample.boardingStop.task.departure ≤ Sample.boardingStop.task.latestDeparture ∧
      ∀ choice, ∃ found offer,
        (Sample.searchBy choice).evaluateVehicle Sample.lateRequest Sample.boardingEntry
            = .ok found ∧
          offer ∈ found ∧
          Sample.boardingEntry.waypoint offer.pickup = .ok (.stop Sample.boardingStop) ∧
          offer.timing.pickupDeparture = Scalar.max Sample.boardingStop.task.departure
            Sample.lateRequest.times.earliestStart ∧
          ¬ offer.timing.pickupDeparture ≤ Sample.boardingStop.task.latestDeparture := by
  have hearliest : Sample.lateRequest.times.earliestStart.isDefined = true := rfl
  have hlate : ¬ Sample.lateRequest.times.earliestStart
      ≤ Sample.boardingStop.task.latestDeparture :=
    fun h => absurd (Exact.finite_le_finite.mp h) (by norm_num)
  refine ⟨Sample.built_boardingEntry, fun _ => DriveTime.line_isNonnegative (by norm_num), rfl,
    Sample.departure_boardingStop, fun choice => ?_⟩
  obtain ⟨found, offer, returned, hoffer, hstop⟩ := Sample.exists_lateOffer choice
  obtain ⟨⟨insertion, -, prices⟩, -⟩ := (Search.mem_of_evaluateVehicle_eq_ok returned).mp hoffer
  have hdeparture := prices.departure_stop hstop rfl
  refine ⟨found, offer, returned, hoffer, hstop, hdeparture, fun h => hlate ?_⟩
  rw [hdeparture, Exact.max_le_iff rfl hearliest] at h
  exact h.2

end DialARide
