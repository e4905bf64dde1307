import TrafficQueue.Decimal.Binary64

/-!
# Shortest decimal text

The text of a floating-point number: the fewest digits that read back as the same number, and of
those the nearest to it, written positionally.

Main result: `Interval.candidateAt_mem`, every candidate lies in the interval of numbers that round
to the given one.
-/

namespace TrafficQueue.Decimal

/-- The numbers that round to a given one: from `low / den` to `high / den`, with both ends included
if `closed`.  The number itself is `mid / den`. -/
structure Interval where
  low : Nat
  mid : Nat
  high : Nat
  den : Nat
  closed : Bool

/-- The interval of the magnitude `mantissa * 2 ^ exponent`.  Below a power of two the neighbour is
only half as far away. -/
def Interval.around (mantissa : Nat) (exponent : Int) : Interval :=
  let below := if mantissa = leadingBit ∧ minExponent < exponent then 1 else 2
  let up := 1 <<< exponent.toNat
  { low := (4 * mantissa - below) * up
    mid := 4 * mantissa * up
    high := (4 * mantissa + 2) * up
    den := 4 <<< (-exponent).toNat
    closed := mantissa % 2 = 0 }

/-- A decimal magnitude `digits * 10 ^ exponent`. -/
structure Magnitude where
  digits : Nat
  exponent : Int
deriving DecidableEq

/-- Whether `digits * 10 ^ exponent` lies in the interval. -/
def Interval.contains (i : Interval) (m : Magnitude) : Bool :=
  let point := m.digits * Nat.pow 10 m.exponent.toNat * i.den
  let scale := Nat.pow 10 (-m.exponent).toNat
  if i.closed then i.low * scale ≤ point && point ≤ i.high * scale
  else i.low * scale < point && point < i.high * scale

/-- The least `e` with `mid / den < 10 ^ e`, for a positive interval. -/
def Interval.ceilingExponent (i : Interval) : Int :=
  if i.den ≤ i.mid then ((Nat.toDigits 10 (i.mid / i.den)).length : Int)
  else
    let steps := (i.den + i.mid - 1) / i.mid - 1
    1 - ((Nat.toDigits 10 steps).length : Int)

/-- The nearest multiple of `10 ^ exponent` inside the interval; of two equally near ones the
larger. -/
def Interval.candidateAt (i : Interval) (exponent : Int) : Option Magnitude :=
  let num := i.mid * Nat.pow 10 (-exponent).toNat
  let den := i.den * Nat.pow 10 exponent.toNat
  let lower : Magnitude := ⟨num / den, exponent⟩
  let upper : Magnitude := ⟨num / den + 1, exponent⟩
  let nearer := if 2 * (num % den) < den then [lower, upper] else [upper, lower]
  nearer.find? i.contains

/-- The first grid with a point in the interval, from `places` digits on. -/
def Interval.search (i : Interval) (top : Int) (places : Nat) : Nat → Magnitude
  | 0 => ⟨0, 0⟩
  | fuel + 1 =>
    match i.candidateAt (top - places) with
    | some m => m
    | none => i.search top (places + 1) fuel

/-- Moves the zeros at the end of the digits into the exponent. -/
def Magnitude.stripZeros (m : Magnitude) : Nat → Magnitude
  | 0 => m
  | fuel + 1 =>
    if m.digits % 10 = 0 ∧ m.digits ≠ 0 then
      Magnitude.stripZeros ⟨m.digits / 10, m.exponent + 1⟩ fuel
    else m

/-- The shortest decimal that reads back as `mantissa * 2 ^ exponent`.  Grids of up to seventeen
digits are searched, of which the last always has a point in the interval. -/
def shortest (mantissa : Nat) (exponent : Int) : Magnitude :=
  if mantissa = 0 then ⟨0, 0⟩
  else
    let i := Interval.around mantissa exponent
    (i.search i.ceilingExponent 1 17).stripZeros 20

/-- All digits, with a point where it belongs and no exponent. -/
def Magnitude.positional (m : Magnitude) : String :=
  let ds := Nat.toDigits 10 m.digits
  if 0 ≤ m.exponent then String.ofList (ds ++ List.replicate m.exponent.toNat '0')
  else
    let places := (-m.exponent).toNat
    let all := List.replicate (places + 1 - ds.length) '0' ++ ds
    let whole := all.length - places
    String.ofList (all.take whole ++ '.' :: all.drop whole)

/-- The text of a number: shortest digits, never an exponent, no point for whole numbers. -/
def text (x : Float) : String :=
  match Binary64.ofFloat x with
  | .nan => "NaN"
  | .infinite negative => if negative then "-inf" else "inf"
  | .finite negative mantissa exponent =>
    (if negative then "-" else "") ++ (shortest mantissa exponent).positional

/-- A candidate lies in the interval and has the exponent that it was asked for. -/
theorem Interval.candidateAt_mem {i : Interval} {e : Int} {m : Magnitude}
    (h : i.candidateAt e = some m) : i.contains m = true ∧ m.exponent = e := by
  unfold candidateAt at h
  refine ⟨List.find?_some h, ?_⟩
  have hmem := List.mem_of_find?_eq_some h
  split at hmem <;> simp only [List.mem_cons, List.not_mem_nil, or_false] at hmem <;>
    rcases hmem with rfl | rfl <;> rfl

end TrafficQueue.Decimal
