import DialARide.Insertion.Legs
import DialARide.Word

/-!
# Timing of an insertion

When a request is picked up and dropped off, and how much the rest of the schedule is delayed. A
pickup delays every waypoint after it by the pickup loss; a dropoff delays every waypoint after it
by the dropoff loss on top. Neither loss is negative: a vehicle that saves time waits for its
schedule.

The first section times an insertion from the waypoints it touches, the second one looks these
waypoints up.
-/

namespace DialARide

variable {α : Type} [Scalar α]

/-- Times of a request in a vehicle, and the delays of the vehicle's schedule. -/
structure Timing (α : Type) where
  /-- When the vehicle leaves the pickup. -/
  pickupDeparture : α
  /-- When the vehicle reaches the dropoff. -/
  dropoffArrival : α
  /-- Delay of every waypoint after the pickup. -/
  pickupLoss : α
  /-- Further delay of every waypoint after the dropoff. -/
  dropoffLoss : α
  deriving Repr

namespace Timing

/-- Delay of every waypoint after the dropoff. -/
def totalLoss (t : Timing α) : α := t.pickupLoss + t.dropoffLoss

/-! ## 1. Rules -/

/-- Departure from the pickup that follows waypoint `w`. When `w` is a stop at the origin, the
request boards during that stop and only its earliest start may hold the vehicle up. Otherwise the
vehicle drives to the pickup, waits for the earliest start and then stops for `stopDuration`. -/
def departureFrom (stopDuration : α) (request : Request α) (w : Waypoint α) (legs : Legs α) : α :=
  if w.isStop ∧ w.location = request.origin then
    Scalar.max w.departure request.times.earliestStart
  else
    Scalar.max (w.departure + legs.toPickup) request.times.earliestStart + stopDuration

/-- Pickup and dropoff back to back after waypoint `w`, on the way to a waypoint that is scheduled
a drive of `replaced` later. The detour is taken as a whole and split afterwards: what lies before
the pickup departure is the pickup loss, at most the whole detour, and the rest the dropoff loss. -/
def combined (stopDuration : α) (request : Request α) (w : Waypoint α) (replaced : α)
    (legs : Legs α) : Timing α :=
  let departure := departureFrom stopDuration request w legs
  let arrival := departure + legs.fromPickup
  let detour :=
    Scalar.clamp (arrival - w.departure + stopDuration + legs.timeFromDropoff - replaced)
  let pickupLoss := Scalar.min (departure - w.departure) detour
  { pickupDeparture := departure, dropoffArrival := arrival, pickupLoss
    dropoffLoss := detour - pickupLoss }

/-- Delay caused by a pickup of its own after waypoint `w`. -/
def separatePickupLoss (departure : α) (w : Waypoint α) (replaced : α) (legs : Legs α) : α :=
  Scalar.clamp (departure - w.departure + legs.fromPickup - replaced)

/-- Arrival at a dropoff after `stop`, and the further delay it causes, when `pickupLoss` has
delayed that stop already. At the destination the request alights during the stop. -/
def separateDropoff (stopDuration : α) (request : Request α) (stop : Stop α) (replaced : α)
    (legs : Legs α) (pickupLoss : α) : α × α :=
  if stop.location = request.destination then
    (stop.task.arrival + pickupLoss, Scalar.zero)
  else
    (stop.task.departure + pickupLoss + legs.timeToDropoff,
      Scalar.clamp (legs.timeToDropoff + stopDuration + legs.timeFromDropoff - replaced))

end Timing

/-! ## 2. Insertions into a schedule -/

/-- Scheduled drive from the waypoint at a position to the next one; zero after the last one. -/
def Entry.driveAfter (entry : Entry α) (position : Nat) : Except Fault α := do
  if position < entry.stopCount then
    return (← lookUp entry.stops position).task.arrival - (← entry.waypoint position).departure
  else return Scalar.zero

/-- The stop at a waypoint position. The start is no stop: position `0` lies before the first one,
and counting down from it ends at the largest 64-bit number. -/
def Entry.stopAt (entry : Entry α) : Nat → Except Fault (Stop α)
  | 0 => .error (.outsideList entry.stopCount (Word.bound - 1))
  | k + 1 => lookUp entry.stops k

/-- The timing of an insertion, given its legs. -/
def Timing.ofInsertion (stopDuration : α) (request : Request α) (entry : Entry α)
    (insertion : Insertion) (legs : Legs α) : Except Fault (Timing α) := do
  let w ← entry.waypoint insertion.pickup
  let replaced ← entry.driveAfter insertion.pickup
  if insertion.pickup = insertion.dropoff then
    return combined stopDuration request w replaced legs
  else
    let departure := departureFrom stopDuration request w legs
    let pickupLoss := separatePickupLoss departure w replaced legs
    let stop ← entry.stopAt insertion.dropoff
    let replacedAfter ← entry.driveAfter insertion.dropoff
    let (arrival, dropoffLoss) :=
      separateDropoff stopDuration request stop replacedAfter legs pickupLoss
    return { pickupDeparture := departure, dropoffArrival := arrival, pickupLoss, dropoffLoss }

end DialARide
