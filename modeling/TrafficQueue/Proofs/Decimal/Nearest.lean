import TrafficQueue.Proofs.Decimal.Bits

/-!
# Rounding to the nearest number

What a quotient is rounded to, said in rational numbers.  Around a magnitude `m * 2 ^ e` lies the
range of what rounds to it: half a unit on both sides, but less below a power of two, where the
units are half as large.

Main results:

- Definition `Decimal.IsNearest`: the nearest natural number, and the even one of two.
- Theorem `Decimal.quotientToEven_eq`: a quotient is rounded to the nearest natural number.
- Theorem `Decimal.roundRatio_eq`: the units in which a quotient is rounded.
- Definition `Decimal.RoundsTo`: the range of what rounds to a magnitude.
- Theorem `Decimal.roundRatio_of_roundsTo`: a quotient in that range becomes the magnitude.
-/

namespace TrafficQueue.Decimal

variable {num den n m : Nat} {v : ℚ} {e : Int}

/-! ## Quotients -/

/-- The number `n` is nearest to `v`, and if another one is as near it is the even one. -/
structure IsNearest (n : Nat) (v : ℚ) : Prop where
  lower : (n : ℚ) - 1 / 2 ≤ v
  upper : v ≤ n + 1 / 2
  even : v = n - 1 / 2 ∨ v = n + 1 / 2 → n % 2 = 0

/-- Being within half a unit of a quotient, told without fractions. -/
theorem near_div_iff (hden : 0 < den) :
    ((n : ℚ) - 1 / 2 ≤ num / den ∧ (num : ℚ) / den ≤ n + 1 / 2) ↔
      2 * (n * den) ≤ 2 * num + den ∧ 2 * num ≤ 2 * (n * den) + den := by
  have hd : (0 : ℚ) < den := by exact_mod_cast hden
  rw [le_div_iff₀ hd, div_le_iff₀ hd, ← Nat.cast_le (α := ℚ), ← Nat.cast_le (α := ℚ)]
  push_cast
  constructor <;> rintro ⟨hlower, hupper⟩ <;> constructor <;> linarith

/-- Being half a unit away from a quotient, told without fractions. -/
theorem tie_div_iff (hden : 0 < den) :
    ((num : ℚ) / den = n - 1 / 2 ∨ (num : ℚ) / den = n + 1 / 2) ↔
      2 * num + den = 2 * (n * den) ∨ 2 * num = 2 * (n * den) + den := by
  have hd : (0 : ℚ) < den := by exact_mod_cast hden
  rw [div_eq_iff hd.ne', div_eq_iff hd.ne', ← Nat.cast_inj (R := ℚ), ← Nat.cast_inj (R := ℚ)]
  push_cast
  constructor <;> rintro (h | h)
  · exact .inl (by linarith)
  · exact .inr (by linarith)
  · exact .inl (by linarith)
  · exact .inr (by linarith)

/-- A quotient is rounded to the nearest number. -/
theorem quotientToEven_eq (hden : 0 < den) (h : IsNearest n ((num : ℚ) / den)) :
    quotientToEven num den = n := by
  rcases (near_div_iff hden).1 ⟨h.lower, h.upper⟩ with ⟨hlower, hupper⟩
  have heven := fun htie => h.even ((tie_div_iff hden).2 htie)
  have hdiv := Nat.div_add_mod num den
  have hmod := Nat.mod_lt num hden
  have hle : num / den ≤ n := by
    rw [← Nat.lt_succ_iff, Nat.div_lt_iff_lt_mul hden, Nat.succ_mul]
    omega
  have hge : n - 1 ≤ num / den := by
    rw [Nat.le_div_iff_mul_le hden, Nat.sub_mul, Nat.one_mul]
    omega
  unfold quotientToEven
  simp only []
  rcases Nat.eq_or_lt_of_le hle with heq | hlt
  · subst heq
    rw [Nat.mul_comm (num / den)] at hlower hupper heven
    rw [if_neg]
    omega
  · have hnext : n = num / den + 1 := by omega
    rw [hnext, Nat.add_mul, Nat.mul_comm (num / den)] at hlower hupper heven
    rw [hnext, if_pos]
    omega

/-- The nearer one of the two numbers around a quotient is at most half a unit away. -/
theorem nearer_bounds (hden : 0 < den) :
    let n := if 2 * (num % den) < den then num / den else num / den + 1
    (n : ℚ) - 1 / 2 ≤ num / den ∧ (num : ℚ) / den ≤ n + 1 / 2 := by
  intro n
  have hdiv := Nat.div_add_mod' num den
  have hmod := Nat.mod_lt num hden
  rw [near_div_iff hden]
  unfold n
  split
  · constructor <;> omega
  · rw [Nat.add_mul]
    constructor <;> omega

/-! ## Powers -/

/-- A power with an integer exponent, told without negative exponents. -/
theorem zpow_eq_div {b : ℚ} (hb : b ≠ 0) (k : ℤ) : b ^ k = b ^ k.toNat / b ^ (-k).toNat := by
  rw [← zpow_natCast, ← zpow_natCast, ← zpow_sub₀ hb]
  congr 1
  omega

/-- Comparing a quotient with a power of two. -/
theorem two_zpow_le_div_iff (hden : 0 < den) (k : ℤ) :
    (2 : ℚ) ^ k ≤ (num : ℚ) / den ↔
      if 0 ≤ k then den <<< k.toNat ≤ num else den ≤ num <<< (-k).toNat := by
  have hd : (0 : ℚ) < den := by exact_mod_cast hden
  rw [zpow_eq_div two_ne_zero]
  split
  · rename_i hk
    have hzero : (-k).toNat = 0 := by omega
    rw [hzero, pow_zero, div_one, le_div_iff₀ hd, Nat.shiftLeft_eq, mul_comm]
    norm_cast
  · rename_i hk
    have hzero : k.toNat = 0 := by omega
    rw [hzero, pow_zero, div_le_div_iff₀ (by positivity) hd, one_mul, Nat.shiftLeft_eq]
    norm_cast

/-- The exponent of the leading digit. -/
theorem log_eq_of_bracket {k : ℤ} (hlo : (2 : ℚ) ^ k ≤ v) (hhi : v < 2 ^ (k + 1)) :
    Int.log 2 v = k := by
  have hv : 0 < v := (zpow_pos two_pos k).trans_le hlo
  have hle := (Int.zpow_le_iff_le_log Nat.one_lt_two hv).1 (by rwa [Nat.cast_ofNat])
  have hlt := (Int.lt_zpow_iff_log_lt Nat.one_lt_two hv).1 (by rwa [Nat.cast_ofNat])
  omega

/-- How many digits a quotient has is known up to one from the digits of its parts. -/
theorem div_bracket (hnum : 0 < num) (hden : 0 < den) :
    (2 : ℚ) ^ ((num.log2 : ℤ) - den.log2 - 1) ≤ (num : ℚ) / den ∧
      (num : ℚ) / den < 2 ^ ((num.log2 : ℤ) - den.log2 + 1) := by
  have hd : (0 : ℚ) < den := by exact_mod_cast hden
  have hn : (0 : ℚ) < num := by exact_mod_cast hnum
  have hnlo : (2 : ℚ) ^ num.log2 ≤ num := by exact_mod_cast Nat.log2_self_le hnum.ne'
  have hnhi : (num : ℚ) < 2 ^ (num.log2 + 1) := by exact_mod_cast Nat.lt_log2_self
  have hdlo : (2 : ℚ) ^ den.log2 ≤ den := by exact_mod_cast Nat.log2_self_le hden.ne'
  have hdhi : (den : ℚ) < 2 ^ (den.log2 + 1) := by exact_mod_cast Nat.lt_log2_self
  have hlo : (2 : ℚ) ^ ((num.log2 : ℤ) - den.log2 - 1) = 2 ^ num.log2 / 2 ^ (den.log2 + 1) := by
    rw [← zpow_natCast, ← zpow_natCast, ← zpow_sub₀ two_ne_zero, Nat.cast_succ, sub_sub]
  have hhi : (2 : ℚ) ^ ((num.log2 : ℤ) - den.log2 + 1) = 2 ^ (num.log2 + 1) / 2 ^ den.log2 := by
    rw [← zpow_natCast, ← zpow_natCast, ← zpow_sub₀ two_ne_zero, Nat.cast_succ, sub_add_eq_add_sub]
  rw [hlo, hhi]
  exact ⟨div_le_div₀ hn.le hnlo hd hdhi.le, div_lt_div₀ hnhi hdlo (by positivity) (by positivity)⟩

/-- The exponent of the leading digit of a quotient, found by one comparison. -/
theorem log_div_eq (hnum : 0 < num) (hden : 0 < den) {k : ℤ} (hk : k = num.log2 - den.log2) :
    ((2 : ℚ) ^ k ≤ (num : ℚ) / den → Int.log 2 ((num : ℚ) / den) = k) ∧
      (¬ (2 : ℚ) ^ k ≤ (num : ℚ) / den → Int.log 2 ((num : ℚ) / den) = k - 1) := by
  have hbracket := div_bracket hnum hden
  rw [← hk] at hbracket
  constructor
  · exact fun hreached => log_eq_of_bracket hreached hbracket.2
  · intro hreached
    apply log_eq_of_bracket hbracket.1
    rw [sub_add_cancel]
    exact not_le.1 hreached

/-! ## Rounding a quotient -/

/-- In units of a power of two. -/
theorem quotientToEven_unit (hden : 0 < den) {unit : ℤ}
    (h : IsNearest n ((num : ℚ) / den / 2 ^ unit)) :
    (if 0 ≤ unit then quotientToEven num (den <<< unit.toNat)
      else quotientToEven (num <<< (-unit).toNat) den) = n := by
  rw [zpow_eq_div two_ne_zero] at h
  split
  · rename_i hunit
    have hzero : (-unit).toNat = 0 := by omega
    rw [hzero, pow_zero, div_one, div_div] at h
    apply quotientToEven_eq
    · rw [Nat.shiftLeft_eq]
      positivity
    · rw [Nat.shiftLeft_eq]
      exact_mod_cast h
  · rename_i hunit
    have hzero : unit.toNat = 0 := by omega
    rw [hzero, pow_zero, div_div_eq_mul_div, div_one, div_mul_eq_mul_div] at h
    apply quotientToEven_eq hden
    rw [Nat.shiftLeft_eq]
    exact_mod_cast h

/-- A quotient becomes the number of units nearest to it, where the unit leaves room for a full
mantissa. -/
theorem roundRatio_eq (hnum : 0 < num) (hden : 0 < den) {unit : ℤ}
    (hunit : unit = max (Int.log 2 ((num : ℚ) / den) - 52) minExponent)
    (h : IsNearest n ((num : ℚ) / den / 2 ^ unit)) :
    roundRatio num den = Float.ofBits (.ofNat (min (wordOf n unit) (2047 * leadingBit))) := by
  have hlog := log_div_eq hnum hden rfl
  rw [two_zpow_le_div_iff hden] at hlog
  -- whichever way the comparison goes, the unit is 52 digits below the leading one
  have hchoice : ∀ {reached : Prop} [Decidable reached] {k l : ℤ}, (reached → l = k) →
      (¬ reached → l = k - 1) → (if reached then k - 52 else k - 53) = l - 52 := by
    intro reached _ k l hyes hno
    split
    · rename_i h
      rw [hyes h]
    · rename_i h
      rw [hno h, sub_sub]
      rfl
  unfold roundRatio
  simp only []
  rw [hchoice hlog.1 hlog.2, ← hunit, quotientToEven_unit hden h]
  rfl

/-! ## Magnitudes -/

/-- How far below a magnitude the numbers reach that round to it, in units: half a unit, but half of
that below a power of two, where the units are half as large. -/
def reachBelow (m : Nat) (e : Int) : ℚ :=
  if m = leadingBit ∧ minExponent < e then 1 / 4 else 1 / 2

/-- The number `v` rounds to the magnitude `m * 2 ^ e`; the ends of the range belong to it if the
mantissa is even. -/
structure RoundsTo (m : Nat) (e : Int) (v : ℚ) : Prop where
  lower : (m - reachBelow m e) * 2 ^ e ≤ v
  upper : v ≤ (m + 1 / 2) * 2 ^ e
  inside : m % 2 = 1 → (m - reachBelow m e) * 2 ^ e < v ∧ v < (m + 1 / 2) * 2 ^ e

/-- A number reaches down by half a step at most. -/
theorem reachBelow_le (m : Nat) (e : Int) : reachBelow m e ≤ 1 / 2 := by
  unfold reachBelow
  split <;> norm_num

namespace RoundsTo

/-- With the units of the magnitude itself the magnitude is the nearest one. -/
theorem isNearest (h : RoundsTo m e v) : IsNearest m (v / 2 ^ e) := by
  have hunit : (0 : ℚ) < 2 ^ e := zpow_pos two_pos e
  have hreach := reachBelow_le m e
  have hlower := (le_div_iff₀ hunit).2 h.lower
  have hupper := (div_le_iff₀ hunit).2 h.upper
  refine ⟨by linarith, hupper, ?_⟩
  intro htie
  by_contra hodd
  have hinside := h.inside (by omega)
  have hlower' := (lt_div_iff₀ hunit).2 hinside.1
  have hupper' := (div_lt_iff₀ hunit).2 hinside.2
  rcases htie with htie | htie <;> linarith

/-- A power of two is reached by numbers with one digit less. -/
theorem log_of_lt (h : RoundsTo leadingBit e v) (hlt : v < leadingBit * 2 ^ e) :
    Int.log 2 v = e + 51 := by
  have hunit : (0 : ℚ) < 2 ^ e := zpow_pos two_pos e
  have hreach := reachBelow_le leadingBit e
  have hhalf : (2 : ℚ) ^ (51 : ℤ) ≤ leadingBit - 1 / 2 := by norm_num [leadingBit]
  have hbit : (leadingBit : ℚ) = 2 ^ (51 + 1 : ℤ) := by norm_num [leadingBit]
  apply log_eq_of_bracket
  · rw [zpow_add₀ two_ne_zero, mul_comm]
    exact (mul_le_mul_of_nonneg_right (by linarith) hunit.le).trans h.lower
  · rwa [add_assoc, zpow_add₀ two_ne_zero, mul_comm, ← hbit]

/-- Just below a power of two the units are half as large, and twice as many. -/
theorem isNearest_of_lt (h : RoundsTo leadingBit e v) (he : minExponent < e)
    (hlt : v < leadingBit * 2 ^ e) : IsNearest (2 * leadingBit) (v / 2 ^ (e - 1)) := by
  have hunit : (0 : ℚ) < 2 ^ (e - 1) := zpow_pos two_pos _
  have htwice : (2 : ℚ) ^ e = 2 * 2 ^ (e - 1) := by
    rw [← zpow_one_add₀ two_ne_zero, add_sub_cancel]
  have hlower := h.lower
  rw [reachBelow, if_pos ⟨rfl, he⟩, htwice] at hlower
  rw [htwice] at hlt
  have hlower' : 2 * (leadingBit : ℚ) - 1 / 2 ≤ v / 2 ^ (e - 1) := by
    rw [le_div_iff₀ hunit]
    linarith
  have hupper : v / 2 ^ (e - 1) < 2 * leadingBit := by
    rw [div_lt_iff₀ hunit]
    linarith
  refine ⟨by push_cast; linarith, by push_cast; linarith, fun _ => by decide⟩

/-- What is rounded to a number that fits lies below the next power of two. -/
theorem lt_two_pow (h : RoundsTo m e v) (hfits : Fits m e) : v < 2 ^ (e + 53) := by
  have hunit : (0 : ℚ) < 2 ^ e := zpow_pos two_pos e
  have hm : (m : ℚ) + 1 ≤ 2 ^ (53 : ℤ) := by
    have hlt := hfits.lt
    simp only [leadingBit] at hlt
    norm_num
    exact_mod_cast hlt
  rw [zpow_add₀ two_ne_zero, mul_comm]
  refine h.upper.trans_lt ?_
  exact mul_lt_mul_of_pos_right (by linarith) hunit

/-- Above the least exponent numbers have full mantissas, but just below a power of two. -/
theorem two_pow_le (h : RoundsTo m e v) (hfits : Fits m e) (he : minExponent < e)
    (hcarry : ¬ (m = leadingBit ∧ v < leadingBit * 2 ^ e)) : (2 : ℚ) ^ (e + 52) ≤ v := by
  have hunit : (0 : ℚ) < 2 ^ e := zpow_pos two_pos e
  have hfull : leadingBit ≤ m := by
    rcases hfits.full with hfull | heq
    · exact hfull
    · omega
  have hbit : (2 : ℚ) ^ (52 : ℤ) = leadingBit := by norm_num [leadingBit]
  rw [zpow_add₀ two_ne_zero, mul_comm, hbit]
  rcases Nat.eq_or_lt_of_le hfull with heq | hlt
  · exact not_lt.1 fun hlt => hcarry ⟨heq.symm, hlt⟩
  · have hm : (leadingBit : ℚ) + 1 ≤ m := by exact_mod_cast hlt
    have hreach := reachBelow_le m e
    refine le_trans ?_ h.lower
    exact mul_le_mul_of_nonneg_right (by linarith) hunit.le

end RoundsTo

/-- The word after the last one of an exponent is the first one of the next exponent. -/
theorem wordOf_carry (he : minExponent < e) :
    wordOf (2 * leadingBit) (e - 1) = wordOf leadingBit e := by
  simp only [wordOf, leadingBit, minExponent] at *
  omega

/-- What rounds to a magnitude is rounded to it. -/
theorem roundRatio_of_roundsTo (hfits : Fits m e) (hnum : 0 < num) (hden : 0 < den)
    (h : RoundsTo m e ((num : ℚ) / den)) :
    roundRatio num den = Float.ofBits (.ofNat (wordOf m e)) := by
  have hword := hfits.wordOf_lt
  have hv : (0 : ℚ) < (num : ℚ) / den := by positivity
  -- below a power of two the quotient has one digit less, and rounding it carries
  by_cases hcarry : minExponent < e ∧ m = leadingBit ∧ (num : ℚ) / den < leadingBit * 2 ^ e
  · rcases hcarry with ⟨he, rfl, hlt⟩
    have hunit : e - 1 = max (Int.log 2 ((num : ℚ) / den) - 52) minExponent := by
      rw [h.log_of_lt hlt]
      omega
    rw [roundRatio_eq hnum hden hunit (h.isNearest_of_lt he hlt), wordOf_carry he,
      min_eq_left hword.le]
  · have hlt := (Int.lt_zpow_iff_log_lt Nat.one_lt_two hv).1 (by exact_mod_cast h.lt_two_pow hfits)
    have hunit : e = max (Int.log 2 ((num : ℚ) / den) - 52) minExponent := by
      rcases Int.lt_or_eq_of_le hfits.least with he | he
      · have hle := (Int.zpow_le_iff_le_log Nat.one_lt_two hv).1
          (by exact_mod_cast h.two_pow_le hfits he fun hc => hcarry ⟨he, hc⟩)
        omega
      · omega
    rw [roundRatio_eq hnum hden hunit h.isNearest, min_eq_left hword.le]

end TrafficQueue.Decimal
