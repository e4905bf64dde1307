/-!
# Decimal numerals

Natural numbers as decimal text: `readBelow` accepts an optional plus sign and ASCII digits whose
value stays below a limit, `padded` writes at least a given number of digits.

Main result: `value_digits`, that the digits written for a number have that number as their value.
-/

namespace TrafficQueue.Text

/-- The digits of a number in base ten, most significant first. -/
def digits (n : Nat) : List Char :=
  Nat.toDigits 10 n

/-- The number that a list of ASCII digits stands for. -/
def value (cs : List Char) : Nat :=
  cs.foldl (fun n c => 10 * n + (c.toNat - '0'.toNat)) 0

/-- Zeros in front bring the digits of a number to the given width. -/
def padded (width n : Nat) : String :=
  String.ofList (List.replicate (width - (digits n).length) '0' ++ digits n)

/-- A plus sign in front of a numeral has no meaning. -/
def dropPlus : List Char → List Char
  | [] => []
  | c :: cs => if c = '+' then cs else c :: cs

/-- Reads an optional plus sign and one or more ASCII digits as a number below `limit`. -/
def readBelow (limit : Nat) (cs : List Char) : Option Nat :=
  let ds := dropPlus cs
  if ds ≠ [] ∧ ds.all Char.isDigit ∧ value ds < limit then some (value ds) else none

/-- One digit more makes the value ten times as large and adds the digit. -/
theorem value_concat (cs : List Char) (c : Char) :
    value (cs ++ [c]) = 10 * value cs + (c.toNat - '0'.toNat) := by
  simp [value]

/-- The character of a digit stands for it. -/
theorem digitChar_toNat {d : Nat} (h : d < 10) : (Nat.digitChar d).toNat - '0'.toNat = d := by
  match d, h with
  | 0, _ | 1, _ | 2, _ | 3, _ | 4, _ | 5, _ | 6, _ | 7, _ | 8, _ | 9, _ => rfl
  | _ + 10, h => omega

/-- A number below ten has one digit. -/
theorem digits_of_lt {n : Nat} (h : n < 10) : digits n = [Nat.digitChar n] :=
  Nat.toDigits_of_lt_base h

/-- The last digit of a number comes behind those of a tenth of it. -/
theorem digits_of_ge {n : Nat} (h : 10 ≤ n) :
    digits n = digits (n / 10) ++ [Nat.digitChar (n % 10)] :=
  Nat.toDigits_of_base_le (by decide) h

/-- A number is the value of its own digits. -/
@[simp] theorem value_digits (n : Nat) : value (digits n) = n := by
  induction n using Nat.strongRecOn with
  | ind n ih =>
    by_cases h : n < 10
    · rw [digits_of_lt h]
      simpa [value] using digitChar_toNat h
    · rw [digits_of_ge (by omega), value_concat, ih (n / 10) (by omega),
        digitChar_toNat (Nat.mod_lt n (by decide))]
      omega

/-- A number is known by its digits. -/
theorem digits_injective {m n : Nat} (h : digits m = digits n) : m = n := by
  rw [← value_digits m, h, value_digits]

/-- A number is written by its digits. -/
theorem toList_toString (n : Nat) : (toString n).toList = digits n := by
  simp [digits, Nat.repr]

/-- A written number has the value of the number. -/
theorem value_toString (n : Nat) : value (toString n).toList = n := by
  rw [toList_toString, value_digits]

/-- Every number has a digit. -/
theorem digits_ne_nil (n : Nat) : digits n ≠ [] := by
  by_cases h : n < 10
  · simp [digits_of_lt h]
  · simp [digits_of_ge (n := n) (by omega)]

/-- Digits are digits. -/
theorem isDigit_of_mem_digits {n : Nat} {c : Char} (h : c ∈ digits n) : c.isDigit = true :=
  Nat.isDigit_of_mem_toDigits (by decide) (by decide) h

end TrafficQueue.Text
