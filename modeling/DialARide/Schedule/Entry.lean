import DialARide.Fault
import DialARide.Schedule.Slack

/-!
# Fleet entries

A fleet entry is a vehicle with its planned schedule, as a dispatch finds it. Waypoint `0` is the
start, waypoint `k + 1` is stop `k`. Entries come from two constructors, `Entry.ofSlack?` and
`Entry.ofServiceEnd?`, which refuse a schedule that is overfull, out of order or not empty at its
end; the first of these defects is reported.
-/

namespace DialARide

variable {α : Type}

/-- What stays the same about a vehicle. -/
structure Vehicle (α : Type) where
  id : Nat
  name : String
  capacity : Nat
  serviceEnd : α
  deriving Repr

/-- Why a schedule is refused. -/
inductive EntryError where
  | slackCount (vehicle : String) (expected actual : Nat)
  | overCapacity (vehicle : String) (waypoint occupancy capacity : Nat)
  | outOfOrder (vehicle : String) (waypoint : Nat)
  | occupiedAtEnd (vehicle : String) (occupancy : Nat)
  deriving DecidableEq, Repr

/-- The text shown for a refused schedule. -/
def EntryError.message : EntryError → String
  | .slackCount vehicle expected actual =>
    s!"vehicle {vehicle}: expected {expected} slack times, got {actual}"
  | .overCapacity vehicle waypoint occupancy capacity =>
    s!"vehicle {vehicle}: occupancy {occupancy} at waypoint {waypoint} exceeds capacity {capacity}"
  | .outOfOrder vehicle waypoint =>
    s!"vehicle {vehicle}: waypoint {waypoint} is not ordered by visit time"
  | .occupiedAtEnd vehicle occupancy =>
    s!"vehicle {vehicle}: occupancy after the last waypoint is {occupancy}, expected 0"

/-- A vehicle and its planned schedule. -/
structure Entry (α : Type) where
  vehicle : Vehicle α
  start : Start α
  stops : List (Stop α)
  /-- The slack of every waypoint. -/
  slack : List α
  deriving Repr

namespace Entry

/-! ## 1. Waypoints -/

/-- Number of planned stops. -/
def stopCount (e : Entry α) : Nat := e.stops.length

/-- All waypoints, the start first. -/
def waypoints (e : Entry α) : List (Waypoint α) := .start e.start :: e.stops.map .stop

/-- The waypoint at a position. -/
def waypoint (e : Entry α) : Nat → Except Fault (Waypoint α)
  | 0 => .ok (.start e.start)
  | k + 1 => Waypoint.stop <$> lookUp e.stops k

/-- The slack of the waypoint at a position. -/
def slackAt (e : Entry α) (k : Nat) : Except Fault α := lookUp e.slack k

/-- Seats taken when the schedule is over. -/
def endOccupancy (e : Entry α) : Nat :=
  match e.stops.getLast? with
  | some stop => stop.occupancy
  | none => e.start.occupancy

/-! ## 2. Validation -/

/-- Whether a waypoint is reached before the previous one is left, or left before it is reached. -/
def outOfOrder [Scalar α] (previousDeparture : α) : Waypoint α → Bool
  | .start _ => false
  | .stop s =>
    Scalar.lt s.task.arrival previousDeparture || Scalar.lt s.task.departure s.task.arrival

/-- Checks the waypoints from position `index` on, the vehicle having left the one before at
`previousDeparture`. At one waypoint, capacity is checked before order. -/
def checkWaypoints [Scalar α] (vehicle : Vehicle α) :
    (index : Nat) → (previousDeparture : α) → List (Waypoint α) → Except EntryError Unit
  | _, _, [] => .ok ()
  | index, previousDeparture, w :: rest =>
    if vehicle.capacity < w.occupancy then
      .error (.overCapacity vehicle.name index w.occupancy vehicle.capacity)
    else if outOfOrder previousDeparture w then
      .error (.outOfOrder vehicle.name index)
    else checkWaypoints vehicle (index + 1) w.departure rest

/-- Checks a whole schedule: its waypoints in order, then that it ends empty. -/
def check [Scalar α] (e : Entry α) : Except EntryError Unit := do
  checkWaypoints e.vehicle 0 e.start.departure e.waypoints
  if e.endOccupancy ≠ 0 then
    throw (.occupiedAtEnd e.vehicle.name e.endOccupancy)

/-! ## 3. Constructors -/

/-- An entry with slacks given from outside, one for each waypoint. -/
def ofSlack? [Scalar α] (vehicle : Vehicle α) (start : Start α) (stops : List (Stop α))
    (slack : List α) : Except EntryError (Entry α) := do
  if slack.length ≠ stops.length + 1 then
    throw (.slackCount vehicle.name (stops.length + 1) slack.length)
  let entry : Entry α := ⟨vehicle, start, stops, slack⟩
  entry.check
  return entry

/-- An entry whose slacks follow from the latest times of its stops and the end of service. -/
def ofServiceEnd? [Scalar α] (vehicle : Vehicle α) (start : Start α) (stops : List (Stop α)) :
    Except EntryError (Entry α) :=
  ofSlack? vehicle start stops (slackTimes start stops vehicle.serviceEnd)

end Entry

/-! ## 4. Fleets -/

/-- The entry of the vehicle with a given number. It is usually at that position of the fleet, and
is looked for there first. -/
def entryWithId? (fleet : List (Entry α)) (id : Nat) : Option (Entry α) :=
  match fleet[id]?.filter (·.vehicle.id == id) with
  | some entry => some entry
  | none => fleet.find? (·.vehicle.id == id)

end DialARide
