import DialARide.Scalar.Double

/-!
# Locations

Schedules and requests name a location by its number in a table; two waypoints are at the same
place exactly when these numbers are equal. Where no travel times are known, the table holds the
points themselves, and distances between them are measured here.
-/

namespace DialARide

/-- A location by its number in the table of locations. -/
abbrev LocationId := Nat

/-- A point of the plane, or of the globe with `x` the longitude and `y` the latitude in degrees. -/
structure Point (α : Type) where
  x : α
  y : α
  deriving Repr, BEq

/-- A point of the globe, latitude first. -/
def Point.ofLatLon {α : Type} (lat lon : α) : Point α := ⟨lon, lat⟩

/-- Ways to measure how far two points are apart. -/
class Geometry (α : Type) where
  /-- Straight-line distance on the plane. -/
  euclidean : Point α → Point α → α
  /-- Great-circle distance on the globe, in meters. -/
  greatCircle : Point α → Point α → α

namespace Geodesy

/-- Mean radius of the earth in meters. -/
def meanRadius : Float := 6371008.8

/-- Radians of an angle in degrees. -/
def toRadians (degrees : Float) : Float := degrees * (3.14159265358979323846 / 180.0)

/-- Great-circle distance by the haversine formula. -/
def haversine (a b : Point Float) : Float :=
  let halfTheta := (toRadians (b.y - a.y) / 2.0).sin
  let halfLambda := (toRadians (b.x - a.x) / 2.0).sin
  let h := halfTheta * halfTheta
    + (toRadians a.y).cos * (toRadians b.y).cos * (halfLambda * halfLambda)
  meanRadius * (2.0 * h.sqrt.asin)

/-- Length of the hypotenuse. Both sides are first scaled by a power of two when their squares
would leave the range of doubles; an infinite side makes it infinite whatever the other is. -/
def hypotenuse (x y : Float) : Float :=
  let x := x.abs
  let y := y.abs
  if x.isInf || y.isInf then 1.0 / 0.0
  else
    let large := if x < y then y else x
    let shift : Int := if large > 1e150 then -600 else if large < 1e-140 then 600 else 0
    let x := x.scaleB shift
    let y := y.scaleB shift
    (x * x + y * y).sqrt.scaleB (-shift)

end Geodesy

instance : Geometry Float where
  euclidean a b := Geodesy.hypotenuse (b.x - a.x) (b.y - a.y)
  greatCircle := Geodesy.haversine

end DialARide
