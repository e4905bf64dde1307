/-!
# Binary floating-point numbers of 64 bits

A finite number is a sign and a magnitude `mantissa * 2 ^ exponent`.  `Binary64.ofFloat` takes a
number apart; `roundRatio` goes the other way and rounds an exact quotient of natural numbers to
the nearest number, ties to the even mantissa.

Main result: `quotientToEven_bounds`, a rounded quotient is within half a unit of the exact one.
-/

namespace TrafficQueue.Decimal

/-- The value of a floating-point number. -/
inductive Binary64 where
  | nan
  | infinite (negative : Bool)
  | finite (negative : Bool) (mantissa : Nat) (exponent : Int)
deriving DecidableEq

/-- The least exponent: numbers without a leading mantissa bit have it, and so do the smallest ones
that have that bit. -/
def minExponent : Int := -1074

/-- The leading bit of a mantissa, two to the 52. -/
def leadingBit : Nat := 0x10000000000000

/-- Takes a number apart into sign, mantissa and exponent. -/
def Binary64.ofFloat (x : Float) : Binary64 :=
  let bits : Nat := x.toBits.toNat
  let negative := bits >>> 63 == 1
  let biased : Nat := bits / leadingBit % 2048
  let fraction : Nat := bits % leadingBit
  if biased = 2047 then
    if fraction = 0 then .infinite negative else .nan
  else if biased = 0 then .finite negative fraction minExponent
  else .finite negative (leadingBit + fraction) (biased + minExponent - 1)

/-- The quotient rounded to the nearest natural number, a half to the even one. -/
def quotientToEven (num den : Nat) : Nat :=
  let q := num / den
  let r := num % den
  if den < 2 * r ∨ (2 * r = den ∧ q % 2 = 1) then q + 1 else q

/-- A rounded quotient differs from the exact one by half a unit at most. -/
theorem quotientToEven_bounds {num den : Nat} (h : 0 < den) :
    2 * num ≤ (2 * quotientToEven num den + 1) * den ∧
      (2 * quotientToEven num den) * den ≤ 2 * num + den := by
  have hdiv := Nat.div_add_mod num den
  have hlt := Nat.mod_lt num h
  unfold quotientToEven
  have hmul : ∀ q : Nat, (2 * q + 1) * den = 2 * (den * q) + den := by
    intro q; rw [Nat.add_mul, Nat.mul_assoc, Nat.mul_comm q den, Nat.one_mul]
  have hmul' : ∀ q : Nat, 2 * q * den = 2 * (den * q) := by
    intro q; rw [Nat.mul_assoc, Nat.mul_comm q den]
  simp only []
  split
  · rw [hmul, hmul', Nat.mul_add, Nat.mul_one]
    omega
  · rw [hmul, hmul']
    omega

/-- The non-negative number nearest to `num / den`, a tie to the even mantissa; too large a quotient
gives infinity. -/
def roundRatio (num den : Nat) : Float :=
  let guess : Int := (num.log2 : Int) - den.log2
  -- the quotient lies between two to the `guess - 1` and two to the `guess + 1`
  let reached :=
    if 0 ≤ guess then den <<< guess.toNat ≤ num else den ≤ num <<< (-guess).toNat
  let unit := max (if reached then guess - 52 else guess - 53) minExponent
  let mantissa :=
    if 0 ≤ unit then quotientToEven num (den <<< unit.toNat)
    else quotientToEven (num <<< (-unit).toNat) den
  let bits := (unit - minExponent).toNat * leadingBit + mantissa
  Float.ofBits (UInt64.ofNat (min bits (2047 * leadingBit)))

/-- The number nearest to `(-1) ^ negative * digits * 10 ^ exponent`. -/
def ofDecimal (negative : Bool) (digits : Nat) (exponent : Int) : Float :=
  let magnitude :=
    if digits = 0 then 0
    else
      let top := exponent + (Nat.toDigits 10 digits).length
      if 400 < top then roundRatio (Nat.pow 10 400) 1
      else if top < -400 then 0
      else if 0 ≤ exponent then roundRatio (digits * Nat.pow 10 exponent.toNat) 1
      else roundRatio digits (Nat.pow 10 (-exponent).toNat)
  if negative then -magnitude else magnitude

end TrafficQueue.Decimal
