import DialARide.Request
import DialARide.Schedule.Entry
import DialARide.Snapshot.File
import DialARide.Travel.Estimator

/-!
# Snapshots

A snapshot is a fleet with its open requests and the means to estimate drives between their
locations. It is built from a snapshot file; the first thing that is wrong with the file is the
error, in this order: the estimator, then the vehicles as they come, then the requests as they come.
-/

namespace DialARide

variable {α : Type}

/-! ## 1. Errors -/

/-- Which matrix of the file. -/
inductive MatrixKind where
  | times
  | distances
  deriving DecidableEq, Repr

/-- Name of a matrix in the file. -/
def MatrixKind.name : MatrixKind → String
  | .times => "travel_times"
  | .distances => "travel_distances"

/-- Which parameter of the beeline. -/
inductive BeelineField where
  | speed
  | distanceFactor
  deriving DecidableEq, Repr

/-- Name of a beeline parameter in the file. -/
def BeelineField.name : BeelineField → String
  | .speed => "speed"
  | .distanceFactor => "distance_factor"

/-- What refers to a location. -/
inductive Owner where
  | vehicle (id : String)
  | request (id : String)
  deriving DecidableEq, Repr

/-- An owner in a message. -/
def Owner.describe : Owner → String
  | .vehicle id => s!"vehicle {id}"
  | .request id => s!"request {id}"

/-- Why a snapshot file is refused. -/
inductive SnapshotError (α : Type) where
  /-- There are no travel times and nothing to estimate them from. -/
  | noTravelTimes
  | notSquare (matrix : MatrixKind) (size : Nat)
  | invalidCell (matrix : MatrixKind) (row column : Nat) (value : α)
  | invalidBeeline (field : BeelineField) (value : α)
  | unknownLocation (owner : Owner) (location count : Nat)
  | duplicateVehicle (id : String)
  | duplicateRequest (id : String)
  | entry (error : EntryError)
  | request (error : RequestError α)
  deriving Repr

/-- The text shown for a refused snapshot, with numbers written by `display`. -/
def SnapshotError.message (display : α → String) : SnapshotError α → String
  | .noTravelTimes => "snapshot has neither travel times nor locations to estimate them from"
  | .notSquare matrix size => s!"{matrix.name} matrix must be {size}x{size}"
  | .invalidCell matrix row column value =>
    s!"{matrix.name}[{row}][{column}] is {display value}, expected a finite non-negative value"
  | .invalidBeeline field value =>
    s!"beeline {field.name} is {display value}, expected a finite positive value"
  | .unknownLocation owner location count =>
    s!"{owner.describe} refers to location {location}, snapshot has {count} locations"
  | .duplicateVehicle id => s!"duplicate vehicle id {id}"
  | .duplicateRequest id => s!"duplicate request id {id}"
  | .entry error => error.message
  | .request error => error.message display

/-! ## 2. The estimator -/

namespace Snapshot

/-- Requires a matrix to have as many rows and columns as there are locations. -/
def ensureSquare (matrix : MatrixKind) (rows : List (List α)) (size : Nat) :
    Except (SnapshotError α) Unit :=
  if rows.length ≠ size ∨ rows.any (·.length ≠ size) then .error (.notSquare matrix size)
  else .ok ()

variable [Scalar α]

/-- Whether a number may stand in a matrix. -/
def validCell (value : α) : Bool := Scalar.isFinite value && !Scalar.lt value Scalar.zero

/-- Whether a number may be a parameter of the beeline. -/
def validBeeline (value : α) : Bool := Scalar.isFinite value && Scalar.lt Scalar.zero value

/-- The first cell of a row, from `column` on, that may not stand there. -/
def invalidInRow? : (column : Nat) → List α → Option (Nat × α)
  | _, [] => none
  | column, value :: rest =>
    if validCell value then invalidInRow? (column + 1) rest else some (column, value)

/-- Requires every cell of the rows, from `row` on, to be finite and not negative. -/
def ensureCells (matrix : MatrixKind) : (row : Nat) → List (List α) → Except (SnapshotError α) Unit
  | _, [] => .ok ()
  | row, cells :: rest =>
    match invalidInRow? 0 cells with
    | some (column, value) => .error (.invalidCell matrix row column value)
    | none => ensureCells matrix (row + 1) rest

/-- Requires a parameter of the beeline to be finite and positive. -/
def ensureBeeline (field : BeelineField) (value : α) : Except (SnapshotError α) Unit :=
  if validBeeline value then .ok () else .error (.invalidBeeline field value)

/-- The estimator of a file: its matrices, if it has travel times, else the beeline between its
locations. -/
def buildEstimator (file : SnapshotFile α) : Except (SnapshotError α) (Estimator α) := do
  match file.travelTimes with
  | some times =>
    let size := times.length
    ensureSquare .times times size
    ensureCells .times 0 times
    match file.travelDistances with
    | some distances =>
      ensureSquare .distances distances size
      ensureCells .distances 0 distances
      return .matrix (.ofRows distances times)
    | none => return .matrix (.ofTimes times)
  | none =>
    match file.locations with
    | none => throw .noTravelTimes
    | some locations =>
      let standard : BeelineParams α := .standard
      let params : BeelineParams α := {
        speed := (file.beeline.bind (·.speed)).getD standard.speed
        distanceFactor := (file.beeline.bind (·.distanceFactor)).getD standard.distanceFactor }
      ensureBeeline .speed params.speed
      ensureBeeline .distanceFactor params.distanceFactor
      return .beeline ⟨locations.map fun (lon, lat) => Point.ofLatLon lat lon, params⟩

/-! ## 3. Vehicles and requests -/

/-- Requires a location to be one of `count`. -/
def ensureLocation (count : Nat) (owner : Owner) (location : Nat) :
    Except (SnapshotError α) LocationId :=
  if location < count then .ok location else .error (.unknownLocation owner location count)

/-- A stop of the file; a latest time that is not given is never reached. -/
def buildStop (count : Nat) (owner : Owner) (record : StopRecord α) :
    Except (SnapshotError α) (Stop α) := do
  let location ← ensureLocation count owner record.location
  return {
    location
    task := {
      arrival := record.arrival
      departure := record.departure
      latestArrival := record.latestArrival.getD Scalar.posInf
      latestDeparture := record.latestDeparture.getD Scalar.posInf }
    occupancy := record.occupancy }

/-- The vehicle at position `index` of the file, which is its number. -/
def buildEntry (count index : Nat) (record : VehicleRecord α) :
    Except (SnapshotError α) (Entry α) := do
  let owner := Owner.vehicle record.id
  let startLocation ← ensureLocation count owner record.start.location
  let start : Start α := ⟨startLocation, record.start.departure, record.start.occupancy.getD 0⟩
  let stops ← (record.stops.getD []).mapM (buildStop count owner)
  let vehicle : Vehicle α := ⟨index, record.id, record.capacity, record.serviceEnd⟩
  let entry := match record.slackTimes with
    | some slack => Entry.ofSlack? vehicle start stops slack
    | none => Entry.ofServiceEnd? vehicle start stops
  entry.mapError .entry

/-- The vehicles of the file from position `index` on, when the ids `seen` have been used. -/
def buildFleet (count : Nat) : (index : Nat) → (seen : List String) → List (VehicleRecord α) →
    Except (SnapshotError α) (List (Entry α))
  | _, _, [] => .ok []
  | index, seen, record :: rest => do
    if record.id ∈ seen then throw (.duplicateVehicle record.id)
    let entry ← buildEntry count index record
    let entries ← buildFleet count (index + 1) (record.id :: seen) rest
    return entry :: entries

/-- A request of the file: one passenger without limits of time where it does not say else. -/
def buildRequest (count : Nat) (record : RequestRecord α) :
    Except (SnapshotError α) (Request α) := do
  let owner := Owner.request record.id
  let origin ← ensureLocation count owner record.origin
  let destination ← ensureLocation count owner record.destination
  let unlimited : RequestTimes α := .unlimited
  let single : Request α := .single record.id origin destination
  let sized ← (single.withSize? (record.size.getD 1)).mapError .request
  (sized.withTimes? {
    earliestStart := record.earliestStart.getD unlimited.earliestStart
    latestStart := record.latestStart.getD unlimited.latestStart
    latestArrival := record.latestArrival.getD unlimited.latestArrival }).mapError .request

/-- The requests of the file, when the ids `seen` have been used. -/
def buildRequests (count : Nat) : (seen : List String) → List (RequestRecord α) →
    Except (SnapshotError α) (List (Request α))
  | _, [] => .ok []
  | seen, record :: rest => do
    if record.id ∈ seen then throw (.duplicateRequest record.id)
    let request ← buildRequest count record
    let requests ← buildRequests count (record.id :: seen) rest
    return request :: requests

end Snapshot

/-! ## 4. Snapshots -/

/-- A fleet and its open requests at one moment. The vehicle at position `i` has number `i`. -/
structure Snapshot (α : Type) where
  estimator : Estimator α
  fleet : List (Entry α)
  requests : List (Request α)
  deriving Repr

/-- Builds the snapshot that a file describes. -/
def Snapshot.ofFile [Scalar α] (file : SnapshotFile α) :
    Except (SnapshotError α) (Snapshot α) := do
  let estimator ← buildEstimator file
  let count := estimator.locationCount
  let fleet ← buildFleet count 0 [] file.vehicles
  let requests ← buildRequests count [] file.requests
  return { estimator, fleet, requests }

end DialARide
