import DialARide.Request
import DialARide.Schedule.Entry

/-!
# Insertions

An insertion `(p, d)` puts the pickup of a request right after waypoint `p` of a schedule and its
dropoff right after waypoint `d`; both positions are those of the unchanged schedule. With `p = d`
the dropoff directly follows the pickup.

The insertions worth looking at keep the vehicle within its capacity on every leg. Where a pickup
or dropoff would lie at the place of the following stop, only the insertion at that stop is listed.
They come in ascending order of pickup, then dropoff.
-/

namespace DialARide

variable {α : Type}

/-- Positions of the pickup and the dropoff of a request in a schedule. -/
structure Insertion where
  pickup : Nat
  dropoff : Nat
  deriving DecidableEq, Repr

/-- Whether a leg has room for a request. An overfull leg has no seat left. -/
def hasRoom (capacity occupancy size : Nat) : Bool := size ≤ capacity - occupancy

/-- Dropoff positions from `position` on, given the stops that follow it. The request is aboard
after waypoint `position` and stays aboard as long as there is room; at a stop whose outgoing leg is
full it can only alight, if it wants to alight there. -/
def dropoffs (capacity size : Nat) (destination : LocationId) :
    (position : Nat) → List (Stop α) → List Nat
  | position, [] => [position]
  | position, next :: rest =>
    let alightsAtNext := next.location == destination
    let here := if alightsAtNext then [] else [position]
    let later :=
      if hasRoom capacity next.occupancy size then
        dropoffs capacity size destination (position + 1) rest
      else if alightsAtNext then [position + 1]
      else []
    here ++ later

/-- Insertions with the pickup at `position` or later, where `occupancy` seats are taken after
waypoint `position` and the given stops follow it. -/
def insertionsFrom (capacity : Nat) (request : Request α) :
    (position occupancy : Nat) → List (Stop α) → List Insertion
  | position, occupancy, stops =>
    let boardsAtNext := match stops with
      | [] => false
      | next :: _ => next.location == request.origin
    let here :=
      if hasRoom capacity occupancy request.size && !boardsAtNext then
        (dropoffs capacity request.size request.destination position stops).map (⟨position, ·⟩)
      else []
    match stops with
    | [] => here
    | next :: rest => here ++ insertionsFrom capacity request (position + 1) next.occupancy rest

/-- The insertions of a request into a schedule. -/
def Entry.insertions (entry : Entry α) (request : Request α) : List Insertion :=
  insertionsFrom entry.vehicle.capacity request 0 entry.start.occupancy entry.stops

end DialARide
