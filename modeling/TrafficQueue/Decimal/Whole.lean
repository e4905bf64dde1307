/-!
# Whole numbers from floating-point numbers

Rounding down to a time and up to a number of vehicles.  Both stay within their range: what lies
beyond an end becomes that end, and not-a-number becomes zero.

Main results: `floor64_lt` and `ceil32_lt`.
-/

namespace TrafficQueue.Decimal

/-- The largest whole number up to `x`, from zero and within 64 bits. -/
def floor64 (x : Float) : Nat := x.toUInt64.toNat

/-- The least whole number from `x` on, from zero and within 32 bits. -/
def ceil32 (x : Float) : Nat :=
  let n := x.toUInt32
  if n.toFloat < x ∧ n.toNat + 1 < UInt32.size then n.toNat + 1 else n.toNat

/-- Rounded down, a number fits 64 bits. -/
theorem floor64_lt (x : Float) : floor64 x < UInt64.size := x.toUInt64.toNat_lt

/-- Rounded up, a number fits 32 bits. -/
theorem ceil32_lt (x : Float) : ceil32 x < UInt32.size := by
  have := x.toUInt32.toNat_lt
  unfold ceil32
  simp only []
  split
  · rename_i h
    exact h.2
  · exact this

end TrafficQueue.Decimal
