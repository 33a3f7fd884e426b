import DialARide.Fault
import DialARide.Location

/-!
# Travel matrices

Times and distances between every pair of `count` locations, kept as one flat list each: the pair
`(a, b)` is at position `a * count + b`. A location is at distance zero from itself, whatever the
matrix says.
-/

namespace DialARide

variable {α : Type}

/-- Travel times and distances between every pair of locations. -/
structure TravelMatrices (α : Type) where
  distances : List α
  times : List α
  count : Nat
  deriving Repr

/-- Time and distance of a drive. -/
structure Path (α : Type) where
  time : α
  distance : α
  deriving Repr

namespace TravelMatrices

/-! ## 1. Construction -/

/-- Matrices given row by row. -/
def ofRows (distances times : List (List α)) : TravelMatrices α :=
  ⟨distances.flatten, times.flatten, times.length⟩

/-- Matrices of a network of which only the times are known; they stand for the distances too. -/
def ofTimes (times : List (List α)) : TravelMatrices α := ofRows times times

/-- Straight-line distances on a plane, driven at `speed` units a second. -/
def ofPoints [Scalar α] [Geometry α] (points : List (Point α)) (speed : α) : TravelMatrices α :=
  let distances := points.flatMap fun a => points.map fun b => Geometry.euclidean a b
  ⟨distances, distances.map (· / speed), points.length⟩

/-! ## 2. Look-up -/

/-- The cell of a pair in one of the flat lists; both locations have to be in the matrix. -/
def cell (m : TravelMatrices α) (cells : List α) (a b : LocationId) : Except Fault α :=
  if a < m.count ∧ b < m.count then lookUp cells (a * m.count + b)
  else .error (.outsideMatrix a b m.count)

/-- Travel time between two locations. -/
def time [Scalar α] (m : TravelMatrices α) (a b : LocationId) : Except Fault α :=
  if a = b then .ok Scalar.zero else m.cell m.times a b

/-- Travel distance between two locations. -/
def distance [Scalar α] (m : TravelMatrices α) (a b : LocationId) : Except Fault α :=
  if a = b then .ok Scalar.zero else m.cell m.distances a b

/-- Travel time and distance between two locations. -/
def path [Scalar α] (m : TravelMatrices α) (a b : LocationId) : Except Fault (Path α) := do
  let time ← m.time a b
  let distance ← m.distance a b
  return ⟨time, distance⟩

end TravelMatrices

end DialARide
