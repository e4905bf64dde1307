import TrafficQueue.Decimal.Fixed
import TrafficQueue.Geometry.Hypotenuse

/-!
# Points of the plane

Coordinates in metres, with distance, midpoint and the written form.
-/

namespace TrafficQueue

/-- A place in the plane. -/
structure Point where
  x : Float
  y : Float

namespace Point

/-- Without further notice a place is the origin. -/
instance : Inhabited Point := ⟨0, 0⟩

/-- Distance in metres. -/
def distance (a b : Point) : Float :=
  Geometry.hypotenuse (b.x - a.x) (b.y - a.y)

/-- The place halfway between two places. -/
def midpoint (a b : Point) : Point :=
  ⟨(a.x + b.x) * 0.5, (a.y + b.y) * 0.5⟩

/-- The square of the distance, from the differences of the coordinates. -/
def squaredDistance (a b : Point) : Float :=
  let dx := a.x - b.x
  let dy := a.y - b.y
  dx * dx + dy * dy

/-- Whether both coordinates are numbers. -/
def isDefined (a : Point) : Bool := !a.x.isNaN && !a.y.isNaN

/-- Equality as the coordinates compare. -/
def same (a b : Point) : Bool := a.x == b.x && a.y == b.y

/-- The coordinates in words. -/
def text (a : Point) : String :=
  "(" ++ Decimal.oneDecimal a.x ++ ", " ++ Decimal.oneDecimal a.y ++ ")"

end Point

end TrafficQueue
