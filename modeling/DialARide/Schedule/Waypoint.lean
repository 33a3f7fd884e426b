import DialARide.Location

/-!
# Waypoints

A schedule begins where the vehicle is now, its start, and goes on through stops. Both are
waypoints: places that the vehicle leaves at a time, with so many seats taken on the way out.
-/

namespace DialARide

variable {α : Type}

/-- Where a vehicle is now: its schedule begins here. -/
structure Start (α : Type) where
  location : LocationId
  /-- Earliest time at which the vehicle can leave. -/
  departure : α
  /-- Seats taken on the leg leaving the start. -/
  occupancy : Nat
  deriving Repr

/-- The service window of a stop, and the latest times that the requests already assigned to the
vehicle tolerate. -/
structure StopTask (α : Type) where
  arrival : α
  departure : α
  latestArrival : α
  latestDeparture : α
  deriving Repr

/-- A planned stop. -/
structure Stop (α : Type) where
  location : LocationId
  task : StopTask α
  /-- Seats taken on the leg leaving the stop. -/
  occupancy : Nat
  deriving Repr

/-- A position of a schedule. -/
inductive Waypoint (α : Type) where
  | start (start : Start α)
  | stop (stop : Stop α)
  deriving Repr

namespace Waypoint

/-- Where the waypoint is. -/
def location : Waypoint α → LocationId
  | .start s => s.location
  | .stop s => s.location

/-- When the vehicle leaves the waypoint. -/
def departure : Waypoint α → α
  | .start s => s.departure
  | .stop s => s.task.departure

/-- Seats taken on the leg leaving the waypoint. -/
def occupancy : Waypoint α → Nat
  | .start s => s.occupancy
  | .stop s => s.occupancy

/-- Whether the waypoint is a planned stop, at which passengers can board. -/
def isStop : Waypoint α → Bool
  | .start _ => false
  | .stop _ => true

end Waypoint

/-- Delay that a stop can absorb before it is too late for one of its latest times. -/
def StopTask.slack [Scalar α] (t : StopTask α) : α :=
  Scalar.min (t.latestArrival - t.arrival) (t.latestDeparture - t.departure)

end DialARide
