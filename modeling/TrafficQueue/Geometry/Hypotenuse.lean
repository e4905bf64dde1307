import TrafficQueue.Decimal.Binary64

/-!
# The length of a hypotenuse

The square root of a sum of two squares, rounded correctly: the sum and the integer part of its root
are exact, and what is left of the root below the last bit only decides the rounding.
-/

namespace TrafficQueue.Geometry

open Decimal

/-- The number nearest to the square root of `radicand * 4 ^ exponent`. -/
def roundRoot (radicand : Nat) (exponent : Int) : Float :=
  -- enough bits below the ones that count
  let scaled := radicand <<< 128
  let root := Nat.sqrt scaled
  -- one more bit says whether the root is exact
  let sticky := if root * root = scaled then 2 * root else 2 * root + 1
  let power := exponent - 65
  if 0 ≤ power then roundRatio (sticky <<< power.toNat) 1
  else roundRatio sticky (1 <<< (-power).toNat)

/-- The number nearest to the square root of the sum of two squares.  An infinite side wins over
anything else. -/
def hypotenuse (x y : Float) : Float :=
  match Binary64.ofFloat x, Binary64.ofFloat y with
  | .infinite _, _ => 1 / 0
  | _, .infinite _ => 1 / 0
  | .nan, _ => 0 / 0
  | _, .nan => 0 / 0
  | .finite _ m e, .finite _ n f =>
    let low := min e f
    let a := m <<< (e - low).toNat
    let b := n <<< (f - low).toNat
    roundRoot (a * a + b * b) low

end TrafficQueue.Geometry
