import TrafficQueue.Decimal.Shortest
import TrafficQueue.Proofs.Decimal.Nearest

/-!
# The shortest decimal

The search for a short decimal tries the grids of one digit, two digits and so on.  On each it looks
at the two points around the magnitude.  Seventeen digits are enough: there the nearest point of the
grid is so near that it rounds to the magnitude.

Main results:

- Definition `Decimal.Magnitude.value`: the number that a decimal stands for.
- Theorem `Decimal.Interval.contains_around_iff`: the interval around a magnitude holds what rounds
  to it.
- Theorem `Decimal.candidateAt_seventeen`: the last grid has a point in the interval.
- Theorem `Decimal.roundsTo_shortest`: the shortest decimal of a magnitude rounds to it.
-/

namespace TrafficQueue.Decimal

/-- The number that digits and exponent stand for. -/
def Magnitude.value (d : Magnitude) : ℚ := d.digits * 10 ^ d.exponent

variable {d : Magnitude} {i : Interval} {n m : Nat} {e : Int}

/-- The value as a quotient. -/
theorem Magnitude.value_eq_div (d : Magnitude) :
    d.value = ((d.digits * 10 ^ d.exponent.toNat : ℕ) : ℚ) / (10 ^ (-d.exponent).toNat : ℕ) := by
  rw [value, zpow_eq_div (by norm_num)]
  push_cast
  ring

/-- A positive number has as many digits as powers of ten fit into it, and one more. -/
theorem length_toDigits_bracket (hn : 0 < n) :
    10 ^ ((Nat.toDigits 10 n).length - 1) ≤ n ∧ n < 10 ^ (Nat.toDigits 10 n).length := by
  have hpos : 0 < (Nat.toDigits 10 n).length := Nat.length_toDigits_pos
  constructor
  · by_contra hlt
    rcases Nat.eq_zero_or_pos ((Nat.toDigits 10 n).length - 1) with hzero | hmore
    · rw [hzero, pow_zero] at hlt
      omega
    · have hle := (Nat.length_toDigits_le_iff (by decide) hmore).2 (not_le.1 hlt)
      omega
  · exact (Nat.length_toDigits_le_iff (by decide) hpos).1 le_rfl

namespace Interval

/-- A decimal is compared with the ends of an interval without fractions. -/
theorem contains_iff (hden : 0 < i.den) :
    i.contains d = true ↔
      if i.closed = true then (i.low : ℚ) / i.den ≤ d.value ∧ d.value ≤ (i.high : ℚ) / i.den
      else (i.low : ℚ) / i.den < d.value ∧ d.value < (i.high : ℚ) / i.den := by
  have hd : (0 : ℚ) < i.den := by exact_mod_cast hden
  have hscale : (0 : ℚ) < (10 ^ (-d.exponent).toNat : ℕ) := by positivity
  rw [d.value_eq_div, div_le_div_iff₀ hd hscale, div_le_div_iff₀ hscale hd,
    div_lt_div_iff₀ hd hscale, div_lt_div_iff₀ hscale hd]
  unfold contains
  cases i.closed
  · simp only [Bool.false_eq_true, if_false, Bool.and_eq_true, decide_eq_true_eq]
    norm_cast
  · simp only [if_true, Bool.and_eq_true, decide_eq_true_eq]
    norm_cast

/-- Quarters of a unit, as they stand in an interval. -/
theorem quarters_div (k : Nat) (e : Int) :
    ((k * (1 <<< e.toNat) : ℕ) : ℚ) / ((4 <<< (-e).toNat : ℕ) : ℚ) = k / 4 * 2 ^ e := by
  rw [zpow_eq_div two_ne_zero, Nat.shiftLeft_eq, Nat.shiftLeft_eq]
  push_cast
  field_simp

/-- The interval has a denominator that can be divided by. -/
theorem den_around_pos (m : Nat) (e : Int) : 0 < (around m e).den := by
  simp only [around, Nat.shiftLeft_eq]
  positivity

/-- The middle of the interval is the number itself. -/
theorem mid_around (m : Nat) (e : Int) :
    ((around m e).mid : ℚ) / (around m e).den = m * 2 ^ e := by
  refine (quarters_div (4 * m) e).trans ?_
  push_cast
  ring

/-- The upper end of the interval is half a step above the number. -/
theorem high_around (m : Nat) (e : Int) :
    ((around m e).high : ℚ) / (around m e).den = (m + 1 / 2) * 2 ^ e := by
  refine (quarters_div (4 * m + 2) e).trans ?_
  push_cast
  ring

/-- The lower end of the interval is as far below the number as it reaches. -/
theorem low_around (hm : 0 < m) (e : Int) :
    ((around m e).low : ℚ) / (around m e).den = (m - reachBelow m e) * 2 ^ e := by
  refine (quarters_div (4 * m - if m = leadingBit ∧ minExponent < e then 1 else 2) e).trans ?_
  unfold reachBelow
  split
  · rw [Nat.cast_sub (by omega)]
    push_cast
    ring
  · rw [Nat.cast_sub (by omega)]
    push_cast
    ring

/-- The interval around a magnitude holds what rounds to it. -/
theorem contains_around_iff (hm : 0 < m) :
    (around m e).contains d = true ↔ RoundsTo m e d.value := by
  rw [contains_iff (den_around_pos m e), low_around hm, high_around]
  have hclosed : (around m e).closed = true ↔ m % 2 = 0 := decide_eq_true_iff
  split
  · rename_i h
    rw [hclosed] at h
    exact ⟨fun hd => ⟨hd.1, hd.2, fun hodd => by omega⟩, fun hd => ⟨hd.lower, hd.upper⟩⟩
  · rename_i h
    rw [hclosed] at h
    exact ⟨fun hd => ⟨hd.1.le, hd.2.le, fun _ => hd⟩, fun hd => hd.inside (by omega)⟩

/-! ## Places -/

/-- The first digit of a number stands where the search begins, or before. -/
theorem pow_ceilingExponent_le (hmid : 0 < i.mid) (hden : 0 < i.den) :
    (10 : ℚ) ^ (i.ceilingExponent - 1) ≤ (i.mid : ℚ) / i.den := by
  have hd : (0 : ℚ) < i.den := by exact_mod_cast hden
  unfold ceilingExponent
  split
  · rename_i hle
    have hwhole : 0 < i.mid / i.den := Nat.div_pos hle hden
    have hpos : 0 < (Nat.toDigits 10 (i.mid / i.den)).length := Nat.length_toDigits_pos
    have hpow : ((Nat.toDigits 10 (i.mid / i.den)).length : ℤ) - 1 =
        ((Nat.toDigits 10 (i.mid / i.den)).length - 1 : ℕ) := by omega
    rw [hpow, zpow_natCast]
    calc (10 : ℚ) ^ ((Nat.toDigits 10 (i.mid / i.den)).length - 1)
        ≤ (i.mid / i.den : ℕ) := by exact_mod_cast (length_toDigits_bracket hwhole).1
      _ ≤ (i.mid : ℚ) / i.den := Nat.cast_div_le
  · rename_i hlt
    simp only []
    have hceiling := Nat.lt_mul_div_succ (i.den + i.mid - 1) hmid
    have htwo : 2 ≤ (i.den + i.mid - 1) / i.mid := (Nat.le_div_iff_mul_le hmid).2 (by omega)
    generalize (i.den + i.mid - 1) / i.mid = steps at hceiling htwo ⊢
    have hfew := (length_toDigits_bracket (show 0 < steps - 1 by omega)).2
    generalize (Nat.toDigits 10 (steps - 1)).length = places at hfew ⊢
    have hle : i.den ≤ i.mid * 10 ^ places := by
      have hscaled := Nat.mul_le_mul_left i.mid (show steps ≤ 10 ^ places by omega)
      rw [Nat.mul_succ] at hceiling
      omega
    rw [show (1 : ℤ) - places - 1 = -places by ring, zpow_neg, zpow_natCast, inv_eq_one_div,
      div_le_div_iff₀ (by positivity) hd, one_mul]
    exact_mod_cast hle

/-- The number of the grid that is tried first is nearest to the middle of the interval, so if that
one is inside there is a candidate. -/
theorem candidateAt_ne_none (hden : 0 < i.den) (k : ℤ)
    (h : ∀ n : ℕ, (n - 1 / 2) * (10 : ℚ) ^ k ≤ (i.mid : ℚ) / i.den →
      (i.mid : ℚ) / i.den ≤ (n + 1 / 2) * (10 : ℚ) ^ k → i.contains ⟨n, k⟩ = true) :
    i.candidateAt k ≠ none := by
  have hgrid : (0 : ℚ) < 10 ^ k := zpow_pos (by norm_num) k
  have hdgrid : 0 < i.den * Nat.pow 10 k.toNat := by
    have hpow : 0 < Nat.pow 10 k.toNat := Nat.pow_pos (by decide)
    exact Nat.mul_pos hden hpow
  have hquotient : ((i.mid * Nat.pow 10 (-k).toNat : ℕ) : ℚ) / (i.den * Nat.pow 10 k.toNat : ℕ) =
      (i.mid : ℚ) / i.den / 10 ^ k := by
    rw [zpow_eq_div (by norm_num), Nat.pow_eq, Nat.pow_eq]
    push_cast
    field_simp
  have hnear := @nearer_bounds (i.mid * Nat.pow 10 (-k).toNat) _ hdgrid
  simp only [hquotient, le_div_iff₀ hgrid, div_le_iff₀ hgrid] at hnear
  unfold candidateAt
  simp only []
  intro hnone
  rw [List.find?_eq_none] at hnone
  split at hnone
  · rename_i hlt
    rw [if_pos hlt] at hnear
    exact hnone _ List.mem_cons_self (h _ hnear.1 hnear.2)
  · rename_i hge
    rw [if_neg hge] at hnear
    exact hnone _ List.mem_cons_self (h _ hnear.1 hnear.2)

/-- If there is a candidate on one of the grids that are searched, what is found is in the interval.
-/
theorem contains_search {top : ℤ} {p : ℕ} (h : i.candidateAt (top - p) ≠ none) (fuel places : ℕ)
    (hle : places ≤ p) (hlt : p < places + fuel) :
    i.contains (i.search top places fuel) = true := by
  induction fuel generalizing places with
  | zero => omega
  | succ fuel ih =>
      unfold search
      split
      · rename_i found hfound
        exact (candidateAt_mem hfound).1
      · rename_i hnone
        have hne : places ≠ p := by
          rintro rfl
          exact h hnone
        exact ih (places + 1) (by omega) (by omega)

end Interval

/-- On a grid that is fine enough the nearest number rounds to the magnitude. -/
theorem roundsTo_of_near (hfits : Fits m e) {grid : ℚ}
    (hfine : grid * 10 ^ 16 ≤ m * 2 ^ e) (hlower : (n - 1 / 2) * grid ≤ m * 2 ^ e)
    (hupper : m * 2 ^ e ≤ (n + 1 / 2) * grid) : RoundsTo m e (n * grid) := by
  have hunit : (0 : ℚ) < 2 ^ e := zpow_pos two_pos e
  -- a mantissa has 53 binary digits, and below a power of two, where the range is half as wide, it
  -- is a power of two itself
  have hreach : (m : ℚ) < reachBelow m e * (2 * 10 ^ 16) := by
    unfold reachBelow
    split
    · rename_i h
      rw [h.1]
      norm_num [leadingBit]
    · have hlt : (m : ℚ) < (2 * leadingBit : ℕ) := by exact_mod_cast hfits.lt
      norm_num [leadingBit] at hlt ⊢
      linarith
  have hhalf : grid < 2 * reachBelow m e * 2 ^ e := by
    have hscaled := mul_lt_mul_of_pos_right hreach hunit
    linarith
  have hle := reachBelow_le m e
  have hhalf' : grid < 2 ^ e := hhalf.trans_le (by nlinarith)
  have hstrict : (m - reachBelow m e) * 2 ^ e < n * grid ∧ n * grid < (m + 1 / 2) * 2 ^ e := by
    constructor <;> linarith
  exact ⟨hstrict.1.le, hstrict.2.le, fun _ => hstrict⟩

/-- Seventeen digits are enough. -/
theorem candidateAt_seventeen (hfits : Fits m e) (hm : 0 < m) :
    (Interval.around m e).candidateAt ((Interval.around m e).ceilingExponent - 17) ≠ none := by
  have hden := Interval.den_around_pos m e
  have hmid : 0 < (Interval.around m e).mid := by
    simp only [Interval.around, Nat.shiftLeft_eq]
    positivity
  have hfirst := Interval.pow_ceilingExponent_le hmid hden
  rw [Interval.mid_around] at hfirst
  apply Interval.candidateAt_ne_none hden
  intro n hlower hupper
  rw [Interval.mid_around] at hlower hupper
  rw [Interval.contains_around_iff hm]
  apply roundsTo_of_near hfits _ hlower hupper
  rwa [← zpow_natCast (10 : ℚ) 16, ← zpow_add₀ (by norm_num),
    show (Interval.around m e).ceilingExponent - 17 + (16 : ℕ) =
      (Interval.around m e).ceilingExponent - 1 by omega]

/-- Zeros at the end of the digits are moved into the exponent. -/
theorem Magnitude.value_stripZeros (d : Magnitude) (fuel : ℕ) :
    (d.stripZeros fuel).value = d.value := by
  induction fuel generalizing d with
  | zero => rfl
  | succ fuel ih =>
      unfold stripZeros
      split
      · rename_i h
        have hdigits : (d.digits : ℚ) = (d.digits / 10 : ℕ) * 10 := by
          exact_mod_cast (Nat.div_mul_cancel (Nat.dvd_of_mod_eq_zero h.1)).symm
        rw [ih, value, value, hdigits, zpow_add₀ (by norm_num), zpow_one]
        ring
      · rfl

/-- The shortest decimal of a magnitude rounds to it. -/
theorem roundsTo_shortest (hfits : Fits m e) (hm : 0 < m) : RoundsTo m e (shortest m e).value := by
  have hfound :=
    Interval.contains_search (candidateAt_seventeen hfits hm) 17 1 (by decide) (by decide)
  unfold shortest
  rw [if_neg hm.ne', Magnitude.value_stripZeros]
  exact (Interval.contains_around_iff hm).1 hfound

end TrafficQueue.Decimal
