import DialARide.Json.Document
import DialARide.Search
import DialARide.Text.Table

/-!
# Reporting results

The answer of a search names vehicle and request as the snapshot does. It is reported as a JSON
object or as a row of a table; a listing has several rows for a request.
-/

namespace DialARide

variable {α : Type}

/-! ## 1. Answers -/

/-- The answer for one request. All parts but the first and the last are absent when the request
cannot be assigned. -/
structure SearchResult (α : Type) where
  request : String
  vehicle : Option String
  pickup : Option Nat
  dropoff : Option Nat
  cost : Option α
  pickupTime : Option α
  dropoffTime : Option α
  skippedVehicles : Nat
  deriving Repr

/-- Name of a vehicle of the fleet, or its number if the fleet does not have it. -/
def vehicleName (fleet : List (Entry α)) (id : Nat) : String :=
  match entryWithId? fleet id with
  | some entry => entry.vehicle.name
  | none => toString id

/-- The answer for a request in the names of its snapshot. -/
def SearchResult.ofOutcome (request : Request α) (fleet : List (Entry α))
    (outcome : Search.Outcome α) : SearchResult α where
  request := request.name
  vehicle := outcome.best.map fun best => vehicleName fleet best.vehicle
  pickup := outcome.best.map (·.pickup)
  dropoff := outcome.best.map (·.dropoff)
  cost := outcome.best.map (·.cost)
  pickupTime := outcome.best.map (·.timing.pickupDeparture)
  dropoffTime := outcome.best.map (·.timing.dropoffArrival)
  skippedVehicles := outcome.skippedVehicles

/-- The answer as a JSON object. -/
def SearchResult.document (r : SearchResult Float) : Json.Document :=
  .object [
    ("request_id", .text r.request),
    ("vehicle_id", .textOrNull r.vehicle),
    ("pickup_idx", .naturalOrNull r.pickup),
    ("dropoff_idx", .naturalOrNull r.dropoff),
    ("cost", .numberOrNull r.cost),
    ("pickup_time", .numberOrNull r.pickupTime),
    ("dropoff_time", .numberOrNull r.dropoffTime),
    ("skipped_vehicles", .natural r.skippedVehicles)]

/-! ## 2. Rows -/

namespace Report

/-- The columns of a report. -/
def header : List String :=
  ["Request", "Vehicle", "Pickup after", "Dropoff after", "Cost", "Pickup time", "Dropoff time"]

/-- The row of an insertion, with numbers written by `display`. -/
def insertionRow (display : α → String) (request : Request α) (fleet : List (Entry α))
    (scored : Scored α) : List String :=
  [request.name, vehicleName fleet scored.vehicle, toString scored.pickup, toString scored.dropoff,
    display scored.cost, display scored.timing.pickupDeparture,
    display scored.timing.dropoffArrival]

/-- The row of a request that cannot be assigned. -/
def unassignableRow (request : Request α) : List String :=
  [request.name, "unassignable"] ++ List.replicate 5 "-"

variable [Scalar α]

/-- The row of a request: its cheapest insertion. -/
def bestRow (display : α → String) (search : Search α) (clock : Clock) (fleet : List (Entry α))
    (request : Request α) : Except Fault (List String) := do
  let outcome ← search.findBest clock request fleet
  return match outcome.best with
    | some best => insertionRow display request fleet best
    | none => unassignableRow request

/-- The rows of a request: its `count` cheapest insertions. -/
def topRows (display : α → String) (search : Search α) (clock : Clock) (fleet : List (Entry α))
    (count : Nat) (request : Request α) : Except Fault (List (List String)) := do
  let listed := (← search.rankInsertions clock request fleet).take count
  if listed.isEmpty then return [unassignableRow request]
  else return listed.map (insertionRow display request fleet)

/-- The rows of a report on all requests: the cheapest insertion of each. -/
def bestRows (display : α → String) (search : Search α) (clock : Clock) (fleet : List (Entry α))
    (requests : List (Request α)) : Except Fault (List (List String)) :=
  requests.mapM (bestRow display search clock fleet)

/-- The rows of a listing for all requests: the `count` cheapest insertions of each. -/
def listingRows (display : α → String) (search : Search α) (clock : Clock) (fleet : List (Entry α))
    (count : Nat) (requests : List (Request α)) : Except Fault (List (List String)) :=
  List.flatten <$> requests.mapM (topRows display search clock fleet count)

end Report

end DialARide
