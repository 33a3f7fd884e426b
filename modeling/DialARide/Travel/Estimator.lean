import DialARide.Travel.Matrix

/-!
# Estimating drives

A dispatch knows the driving times of its network, or only where its locations are. In the second
case the time of a drive is estimated from the beeline.
-/

namespace DialARide

variable {α : Type}

/-- How long a drive between two locations takes. -/
abbrev DriveTime (α : Type) := LocationId → LocationId → Except Fault α

/-- Locations on a line, in the order of their numbers and `scale` apart. -/
def DriveTime.line [Scalar α] (scale : α) : DriveTime α := fun a b =>
  let difference : α := Scalar.ofNat a - Scalar.ofNat b
  let gap := if Scalar.lt difference Scalar.zero then Scalar.zero - difference else difference
  .ok (gap * scale)

/-- Speed and detour factor of drives along the beeline. -/
structure BeelineParams (α : Type) where
  /-- Meters a second. -/
  speed : α
  /-- Ratio between the length of the road and the beeline. -/
  distanceFactor : α
  deriving Repr

/-- Thirty kilometers an hour over roads that are a third longer than the beeline. -/
def BeelineParams.standard [Scalar α] : BeelineParams α where
  speed := Scalar.ofNat 30 / (Scalar.ofNat 36 / Scalar.ofNat 10)
  distanceFactor := Scalar.ofNat 13 / Scalar.ofNat 10

/-- Estimates times from the beelines between points of the globe. -/
structure Beeline (α : Type) where
  points : List (Point α)
  params : BeelineParams α
  deriving Repr

/-- Time of a drive along the beeline, lengthened by the detour factor. -/
def Beeline.time [Scalar α] [Geometry α] (e : Beeline α) : DriveTime α := fun a b =>
  if a = b then .ok Scalar.zero
  else do
    let origin ← lookUp e.points a
    let destination ← lookUp e.points b
    return Geometry.greatCircle origin destination * e.params.distanceFactor / e.params.speed

/-- The estimator of a dispatch: a matrix where travel times are known, else the beeline. -/
inductive Estimator (α : Type) where
  | matrix (matrices : TravelMatrices α)
  | beeline (beeline : Beeline α)
  deriving Repr

namespace Estimator

/-- Name of the kind of estimator. -/
def name : Estimator α → String
  | .matrix _ => "matrix"
  | .beeline _ => "beeline"

/-- How many locations can be asked for. -/
def locationCount : Estimator α → Nat
  | .matrix m => m.count
  | .beeline b => b.points.length

/-- Time of a drive between two locations. -/
def time [Scalar α] [Geometry α] : Estimator α → DriveTime α
  | .matrix m => m.time
  | .beeline b => b.time

end Estimator

end DialARide
