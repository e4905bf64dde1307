import TrafficQueue.Decimal.Binary64
import TrafficQueue.Text.Numeral

/-!
# Reading decimal numbers

A number is read from an optional sign followed by one of the words for infinity and not-a-number in
any case, or by digits with an optional point and an optional exponent.  The result is the nearest
floating-point number.
-/

namespace TrafficQueue.Decimal

/-- A sign in front of a numeral: whether it is a minus, and what follows it. -/
def takeSign : List Char → Bool × List Char
  | [] => (false, [])
  | c :: cs => if c = '-' then (true, cs) else if c = '+' then (false, cs) else (false, c :: cs)

/-- The words for numbers that have no digits. -/
def special? (cs : List Char) : Option Float :=
  let word := cs.map Char.toLower
  if word = "inf".toList ∨ word = "infinity".toList then some (1 / 0)
  else if word = "nan".toList then some (0 / 0)
  else none

/-- What stands after the digits: nothing, or the letter `e` with an optional sign and digits. -/
def readExponent : List Char → Option Int
  | [] => some 0
  | c :: cs =>
    if c = 'e' ∨ c = 'E' then
      let (negative, ds) := takeSign cs
      if ds ≠ [] ∧ ds.all Char.isDigit then
        let n : Int := Text.value ds
        some (if negative then -n else n)
      else none
    else none

/-- The digits after a point, if there is a point, and what follows them. -/
def takeFraction : List Char → List Char × List Char
  | [] => ([], [])
  | c :: cs => if c = '.' then cs.span Char.isDigit else ([], c :: cs)

/-- Reads digits with an optional point and exponent; a digit is needed before or after the point.
-/
def readUnsigned (negative : Bool) (cs : List Char) : Option Float :=
  let (whole, rest) := cs.span Char.isDigit
  let (fraction, rest) := takeFraction rest
  if whole = [] ∧ fraction = [] then none
  else
    (readExponent rest).map fun e =>
      ofDecimal negative (Text.value (whole ++ fraction)) (e - fraction.length)

/-- Reads a number. -/
def read (cs : List Char) : Option Float :=
  let (negative, rest) := takeSign cs
  match special? rest with
  | some x => some (if negative then -x else x)
  | none => readUnsigned negative rest

end TrafficQueue.Decimal
