import TrafficQueue.Decimal.Binary64

/-!
# Decimals with one place

Coordinates are written with one digit after the point: the exact value is rounded, a half goes to
the even neighbour, and the sign is kept also when nothing else is left.
-/

namespace TrafficQueue.Decimal

/-- A magnitude in tenths, written with a point before the last digit. -/
def tenthsText (tenths : Nat) : String :=
  toString (tenths / 10) ++ "." ++ toString (tenths % 10)

/-- The tenths nearest to `mantissa * 2 ^ exponent`. -/
def nearestTenths (mantissa : Nat) (exponent : Int) : Nat :=
  quotientToEven ((10 * mantissa) <<< exponent.toNat) (1 <<< (-exponent).toNat)

/-- The text of a number with one place. -/
def oneDecimal (x : Float) : String :=
  match Binary64.ofFloat x with
  | .nan => "NaN"
  | .infinite negative => if negative then "-inf" else "inf"
  | .finite negative mantissa exponent =>
    (if negative then "-" else "") ++ tenthsText (nearestTenths mantissa exponent)

end TrafficQueue.Decimal
