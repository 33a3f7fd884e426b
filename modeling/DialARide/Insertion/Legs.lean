import DialARide.Insertion.Candidates

/-!
# New legs

An insertion adds up to four legs to a schedule: to the pickup, from the pickup, to the dropoff and
from the dropoff. What is known about a leg is left open: its time, or its time and distance.
-/

namespace DialARide

variable {α δ : Type}

/-- The legs that an insertion adds. -/
structure Legs (δ : Type) where
  /-- From waypoint `p` to the pickup. -/
  toPickup : δ
  /-- From the pickup to waypoint `p + 1`, or straight to the dropoff when `p = d`. -/
  fromPickup : δ
  /-- From waypoint `d` to the dropoff; absent when `p = d`, where `fromPickup` is that leg. -/
  toDropoff : Option δ
  /-- From the dropoff to waypoint `d + 1`; absent when the schedule ends with the dropoff. -/
  fromDropoff : Option δ
  deriving Repr

namespace Legs

/-- The legs of an insertion, each measured by `leg`. They are asked for in the order in which they
are driven, and the first one without an answer is the fault. -/
def ofInsertion (leg : LocationId → LocationId → Except Fault δ) (request : Request α)
    (entry : Entry α) (insertion : Insertion) : Except Fault (Legs δ) := do
  let pickup := insertion.pickup
  let dropoff := insertion.dropoff
  let toPickup ← leg (← entry.waypoint pickup).location request.origin
  let (fromPickup, toDropoff) ←
    if pickup = dropoff then
      pure (← leg request.origin request.destination, none)
    else
      let fromPickup ← leg request.origin (← entry.waypoint (pickup + 1)).location
      let toDropoff ← leg (← entry.waypoint dropoff).location request.destination
      pure (fromPickup, some toDropoff)
  let fromDropoff ←
    if dropoff < entry.stopCount then
      some <$> leg request.destination (← entry.waypoint (dropoff + 1)).location
    else pure none
  return { toPickup, fromPickup, toDropoff, fromDropoff }

/-- The legs with another measure. -/
def map {ε : Type} (f : δ → ε) (legs : Legs δ) : Legs ε where
  toPickup := f legs.toPickup
  fromPickup := f legs.fromPickup
  toDropoff := legs.toDropoff.map f
  fromDropoff := legs.fromDropoff.map f

variable [Scalar α]

/-- Time of the leg to the dropoff, zero when it is absent. -/
def timeToDropoff (legs : Legs α) : α := legs.toDropoff.getD Scalar.zero

/-- Time of the leg from the dropoff, zero when it is absent. -/
def timeFromDropoff (legs : Legs α) : α := legs.fromDropoff.getD Scalar.zero

end Legs

end DialARide
