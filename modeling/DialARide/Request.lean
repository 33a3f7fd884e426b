import DialARide.Location

/-!
# Requests

A request asks for seats from one location to another within a time window. A new request is for
one passenger and has no limits of time; size and window are set by checked operations.
-/

namespace DialARide

variable {α : Type}

/-- The time window of a request. -/
structure RequestTimes (α : Type) where
  earliestStart : α
  latestStart : α
  latestArrival : α
  deriving Repr

/-- No limits of time. -/
def RequestTimes.unlimited [Scalar α] : RequestTimes α :=
  ⟨Scalar.negInf, Scalar.posInf, Scalar.posInf⟩

/-- A demand for seats, waiting to be put into a schedule. -/
structure Request (α : Type) where
  name : String
  origin : LocationId
  destination : LocationId
  /-- Seats taken between pickup and dropoff. -/
  size : Nat
  times : RequestTimes α
  deriving Repr

/-- Why a request is refused. -/
inductive RequestError (α : Type) where
  | zeroSize (request : String)
  | startWindow (request : String) (earliestStart latestStart : α)
  | arrivalWindow (request : String) (earliestStart latestArrival : α)
  deriving Repr

/-- The text shown for a refused request, with times written by `display`. -/
def RequestError.message (display : α → String) : RequestError α → String
  | .zeroSize request => s!"request {request} has a size of zero"
  | .startWindow request earliest latest =>
    s!"request {request}: latest start time {display latest} is before "
      ++ s!"earliest start time {display earliest}"
  | .arrivalWindow request earliest latest =>
    s!"request {request}: latest arrival time {display latest} is before "
      ++ s!"earliest start time {display earliest}"

namespace Request

/-- One passenger, without limits of time. -/
def single [Scalar α] (name : String) (origin destination : LocationId) : Request α :=
  ⟨name, origin, destination, 1, .unlimited⟩

/-- Sets the number of seats, which is at least one. -/
def withSize? (r : Request α) (size : Nat) : Except (RequestError α) (Request α) :=
  if size = 0 then .error (.zeroSize r.name) else .ok { r with size }

/-- Sets the time window. Neither limit may lie before the earliest start; the latest start, which
is usually left open, does not limit the arrival. -/
def withTimes? [Scalar α] (r : Request α) (times : RequestTimes α) :
    Except (RequestError α) (Request α) :=
  if Scalar.lt times.latestStart times.earliestStart then
    .error (.startWindow r.name times.earliestStart times.latestStart)
  else if Scalar.lt times.latestArrival times.earliestStart then
    .error (.arrivalWindow r.name times.earliestStart times.latestArrival)
  else .ok { r with times }

end Request

end DialARide
