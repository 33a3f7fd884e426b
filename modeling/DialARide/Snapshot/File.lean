import DialARide.Json.Shape

/-!
# The snapshot file

A snapshot file describes a fleet and its open requests at one moment. This module holds what the
file says, as it says it, and how it is written in JSON; `DialARide.Snapshot` makes sense of it.
-/

namespace DialARide

/-! ## 1. What the file says -/

/-- Parameters of beeline estimates. -/
structure BeelineRecord (α : Type) where
  speed : Option α
  distanceFactor : Option α
  deriving Repr

/-- The start of a schedule. -/
structure StartRecord (α : Type) where
  location : Nat
  departure : α
  occupancy : Option Nat
  deriving Repr

/-- A stop of a schedule. -/
structure StopRecord (α : Type) where
  location : Nat
  arrival : α
  departure : α
  latestArrival : Option α
  latestDeparture : Option α
  occupancy : Nat
  deriving Repr

/-- A vehicle and its schedule. -/
structure VehicleRecord (α : Type) where
  id : String
  capacity : Nat
  serviceEnd : α
  start : StartRecord α
  stops : Option (List (StopRecord α))
  slackTimes : Option (List α)
  deriving Repr

/-- A request. -/
structure RequestRecord (α : Type) where
  id : String
  origin : Nat
  destination : Nat
  size : Option Nat
  earliestStart : Option α
  latestStart : Option α
  latestArrival : Option α
  deriving Repr

/-- A snapshot file. Locations are pairs of longitude and latitude. -/
structure SnapshotFile (α : Type) where
  locations : Option (List (α × α))
  travelTimes : Option (List (List α))
  travelDistances : Option (List (List α))
  beeline : Option (BeelineRecord α)
  vehicles : List (VehicleRecord α)
  requests : List (RequestRecord α)
  deriving Repr

/-! ## 2. How it is written -/

namespace SnapshotFile

open Json

/-- Shape of a location. -/
def locationShape : Shape :=
  .record { name := "JsonLocation", title := "Location" } <|
    .cons "coordinates" (some "`[longitude, latitude]`") (.pair .number) .nil

/-- Shape of the beeline parameters. -/
def beelineShape : Shape :=
  .record { name := "JsonBeeline", title := "Beeline" } <|
    .cons "speed" (some "Meters per second.") (.optional .number) <|
    .cons "distance_factor" none (.optional .number) .nil

/-- Shape of the start of a schedule. -/
def startShape : Shape :=
  .record { name := "JsonStart", title := "Start" } <|
    .cons "location_id" none (.natural .word) <|
    .cons "departure_time" none .number <|
    .cons "occupancy" none (.optional (.natural .half)) .nil

/-- Shape of a stop. -/
def stopShape : Shape :=
  .record { name := "JsonStop", title := "Stop" } <|
    .cons "location_id" none (.natural .word) <|
    .cons "arrival_time" none .number <|
    .cons "departure_time" none .number <|
    .cons "latest_arrival_time" none (.optional .number) <|
    .cons "latest_departure_time" none (.optional .number) <|
    .cons "occupancy" (some "Occupancy on the leg leaving the stop.") (.natural .half) .nil

/-- Shape of a vehicle. -/
def vehicleShape : Shape :=
  .record { name := "JsonVehicle", title := "Vehicle" } <|
    .cons "id" none .text <|
    .cons "capacity" none (.natural .half) <|
    .cons "service_end_time" none .number <|
    .cons "start" none startShape <|
    .cons "stops" none (.optional (.list stopShape)) <|
    .cons "slack_times"
      (some ("One value per waypoint, start included. Derived from the stops and the\n"
        ++ "service end when omitted."))
      (.optional (.list .number)) .nil

/-- Shape of a request. -/
def requestShape : Shape :=
  .record { name := "JsonRequest", title := "Request" } <|
    .cons "id" none .text <|
    .cons "from_location_id" none (.natural .word) <|
    .cons "to_location_id" none (.natural .word) <|
    .cons "size" none (.optional (.natural .half)) <|
    .cons "earliest_start_time" none (.optional .number) <|
    .cons "latest_start_time" none (.optional .number) <|
    .cons "latest_arrival_time" none (.optional .number) .nil

/-- Names of the whole file. -/
def info : RecordInfo where
  name := "JsonDispatchSnapshot"
  title := "DispatchSnapshot"
  note := some "Times are in seconds since an arbitrary reference shared by the whole\nsnapshot."

/-- Fields of the whole file. -/
def fields : Fields :=
  .cons "locations" none (.optional (.list locationShape)) <|
  .cons "travel_times" (some "Square matrix of travel times between locations, in seconds.")
    (.optional (.list (.list .number))) <|
  .cons "travel_distances" (some "Square matrix of travel distances, in meters.")
    (.optional (.list (.list .number))) <|
  .cons "beeline" (some "Used when no travel times are given.") (.optional beelineShape) <|
  .cons "vehicles" none (.list vehicleShape) <|
  .cons "requests" none (.list requestShape) .nil

/-- Shape of the whole file. -/
def shape : Shape := .record info fields

end SnapshotFile

/-! ## 3. From values to records

Values read by a shape have that shape, so these readings only fail on other values. -/

namespace Json.Content

/-- A number. -/
def asNumber : Content → Option Float
  | number x => some x
  | _ => none

/-- A natural number. -/
def asNatural : Content → Option Nat
  | natural n => some n
  | _ => none

/-- A text. -/
def asText : Content → Option String
  | text s => some s
  | _ => none

/-- The items of a list. -/
def asList {β : Type} (item : Content → Option β) : Content → Option (List β)
  | list items => items.mapM item
  | _ => none

/-- A part that is there. -/
def present {β : Type} (read : Content → Option β) (part : Option Content) : Option β :=
  part.bind read

/-- A part that may be left out or `null`. -/
def optionally {β : Type} (read : Content → Option β) : Option Content → Option (Option β)
  | none => some none
  | some null => some none
  | some value => (read value).map some

end Json.Content

open Json Content

/-- Reads a location. -/
def locationOf : Content → Option (Float × Float)
  | .record [coordinates] => do
    match ← present (asList asNumber) coordinates with
    | [x, y] => return (x, y)
    | _ => none
  | _ => none

/-- Reads beeline parameters. -/
def BeelineRecord.ofContent : Content → Option (BeelineRecord Float)
  | .record [speed, factor] =>
    return ⟨← optionally asNumber speed, ← optionally asNumber factor⟩
  | _ => none

/-- Reads the start of a schedule. -/
def StartRecord.ofContent : Content → Option (StartRecord Float)
  | .record [location, departure, occupancy] =>
    return ⟨← present asNatural location, ← present asNumber departure,
      ← optionally asNatural occupancy⟩
  | _ => none

/-- Reads a stop. -/
def StopRecord.ofContent : Content → Option (StopRecord Float)
  | .record [location, arrival, departure, latestArrival, latestDeparture, occupancy] =>
    return ⟨← present asNatural location, ← present asNumber arrival, ← present asNumber departure,
      ← optionally asNumber latestArrival, ← optionally asNumber latestDeparture,
      ← present asNatural occupancy⟩
  | _ => none

/-- Reads a vehicle. -/
def VehicleRecord.ofContent : Content → Option (VehicleRecord Float)
  | .record [id, capacity, serviceEnd, start, stops, slackTimes] =>
    return ⟨← present asText id, ← present asNatural capacity, ← present asNumber serviceEnd,
      ← present StartRecord.ofContent start, ← optionally (asList StopRecord.ofContent) stops,
      ← optionally (asList asNumber) slackTimes⟩
  | _ => none

/-- Reads a request. -/
def RequestRecord.ofContent : Content → Option (RequestRecord Float)
  | .record [id, origin, destination, size, earliestStart, latestStart, latestArrival] =>
    return ⟨← present asText id, ← present asNatural origin, ← present asNatural destination,
      ← optionally asNatural size, ← optionally asNumber earliestStart,
      ← optionally asNumber latestStart, ← optionally asNumber latestArrival⟩
  | _ => none

namespace SnapshotFile

/-- Reads a snapshot file. -/
def ofContent : Content → Option (SnapshotFile Float)
  | .record [locations, times, distances, beeline, vehicles, requests] =>
    return ⟨← optionally (asList locationOf) locations,
      ← optionally (asList (asList asNumber)) times,
      ← optionally (asList (asList asNumber)) distances,
      ← optionally BeelineRecord.ofContent beeline,
      ← present (asList VehicleRecord.ofContent) vehicles,
      ← present (asList RequestRecord.ofContent) requests⟩
  | _ => none

/-- Reads the text of a snapshot file. -/
def parse (text : String) : Except ReadError (SnapshotFile Float) := do
  match ofContent (← shape.parse text) with
  | some file => return file
  | none => throw .malformed

end SnapshotFile

end DialARide
