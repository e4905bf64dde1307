import TrafficQueue.Decimal.Reader
import TrafficQueue.Proofs.Decimal.Shortest
import TrafficQueue.Proofs.Text.Numeral

/-!
# Numbers in writing

Every number but not-a-number is read back from its text.  The text of a finite number is
positional: digits with at most one point among them.  The reader takes the digits together and
finds the value that the text stands for, which is that of the shortest decimal and rounds to the
number.

Main results:

- Theorem `Decimal.ofDecimal_of_roundsTo`: a decimal in the range of a magnitude is read as that
  magnitude.
- Definition `Decimal.Positional`: digits and a point, with the number that they stand for.
- Theorem `Decimal.positional_spec`: a decimal is written positionally.
- Theorem `Decimal.read_of_positional`: what is read from a positional text.
- Theorem `Decimal.read_text`: a number is read back from its text.
- Theorem `Decimal.not_blank_of_mem_text`: there are no blanks in the text of a number.
-/

namespace TrafficQueue.Decimal

variable {x : Float} {negative : Bool} {digits m n : Nat} {e k : Int} {v : ℚ}
  {cs ds fs rest : List Char}

/-! ## Decimals in the range of a magnitude -/

/-- No number in floating point has more than so many decimal places before the point. -/
theorem two_zpow_lt_ten_zpow : (2 : ℚ) ^ (1088 : ℤ) < 10 ^ (340 : ℤ) := by
  have htwo : (1088 : ℤ) = (64 * 17 : ℕ) := rfl
  have hten : (340 : ℤ) = (20 * 17 : ℕ) := rfl
  rw [htwo, hten, zpow_natCast, zpow_natCast, pow_mul, pow_mul]
  exact pow_lt_pow_left₀ (by norm_num) (by positivity) (by decide)

namespace RoundsTo

/-- What is rounded to a number other than zero is half a step at least. -/
theorem lower_half (h : RoundsTo m e v) (hm : 0 < m) : 1 / 2 * 2 ^ e ≤ v := by
  have hunit : (0 : ℚ) < 2 ^ e := zpow_pos two_pos e
  have hone : (1 : ℚ) ≤ m := by exact_mod_cast hm
  have hreach := reachBelow_le m e
  exact (mul_le_mul_of_nonneg_right (by linarith) hunit.le).trans h.lower

/-- What is rounded to a number other than zero is positive. -/
theorem pos (h : RoundsTo m e v) (hm : 0 < m) : 0 < v :=
  (mul_pos (by norm_num) (zpow_pos two_pos e)).trans_le (h.lower_half hm)

/-- Numbers are not so small that nothing is left of them. -/
theorem tiny_lt (h : RoundsTo m e v) (hfits : Fits m e) (hm : 0 < m) : (10 : ℚ) ^ (-340 : ℤ) < v :=
  calc (10 : ℚ) ^ (-340 : ℤ) < 2 ^ (-1088 : ℤ) := by
        rw [zpow_neg, zpow_neg]
        exact inv_strictAnti₀ (zpow_pos two_pos _) two_zpow_lt_ten_zpow
    _ ≤ 2 ^ (-1 + e) := zpow_le_zpow_right₀ one_le_two (by
        have hleast := hfits.least
        simp only [minExponent] at hleast
        omega)
    _ = 1 / 2 * 2 ^ e := by rw [zpow_add₀ two_ne_zero, zpow_neg_one, one_div]
    _ ≤ v := h.lower_half hm

/-- Numbers are not so large that they are taken for infinite. -/
theorem lt_huge (h : RoundsTo m e v) (hfits : Fits m e) : v < (10 : ℚ) ^ (340 : ℤ) :=
  calc v < 2 ^ (e + 53) := h.lt_two_pow hfits
    _ ≤ 2 ^ (1088 : ℤ) := zpow_le_zpow_right₀ one_le_two (by
        have hgreatest := hfits.greatest
        omega)
    _ < 10 ^ (340 : ℤ) := two_zpow_lt_ten_zpow

end RoundsTo

/-- Digits before and behind the point. -/
theorem mul_zpow_bracket (hdigits : 0 < digits) (k : ℤ) :
    (10 : ℚ) ^ (k + (Nat.toDigits 10 digits).length - 1) ≤ digits * 10 ^ k ∧
      digits * (10 : ℚ) ^ k < 10 ^ (k + (Nat.toDigits 10 digits).length) := by
  have hpos : 0 < (Nat.toDigits 10 digits).length := Nat.length_toDigits_pos
  have hbracket := length_toDigits_bracket hdigits
  generalize (Nat.toDigits 10 digits).length = length at hpos hbracket ⊢
  have hk : (0 : ℚ) < 10 ^ k := zpow_pos (by norm_num) k
  have hlower : (10 : ℚ) ^ (length - 1) ≤ digits := by exact_mod_cast hbracket.1
  have hupper : (digits : ℚ) < 10 ^ length := by exact_mod_cast hbracket.2
  rw [show k + (length : ℤ) - 1 = (length - 1 : ℕ) + k by omega, add_comm k,
    zpow_add₀ (by norm_num), zpow_add₀ (by norm_num), zpow_natCast, zpow_natCast]
  exact ⟨mul_le_mul_of_nonneg_right hlower hk.le, mul_lt_mul_of_pos_right hupper hk⟩

/-- A decimal is rounded as a quotient, with its power of ten above or below the line. -/
theorem roundRatio_decimal (hfits : Fits m e) (hdigits : 0 < digits)
    (h : RoundsTo m e (digits * 10 ^ k)) :
    (if 0 ≤ k then roundRatio (digits * Nat.pow 10 k.toNat) 1
      else roundRatio digits (Nat.pow 10 (-k).toNat)) = Float.ofBits (.ofNat (wordOf m e)) := by
  rw [zpow_eq_div (by norm_num)] at h
  split
  · rename_i hk
    have hzero : (-k).toNat = 0 := by omega
    rw [hzero, pow_zero, div_one] at h
    apply roundRatio_of_roundsTo hfits (by rw [Nat.pow_eq]; positivity) one_pos
    rw [Nat.pow_eq, Nat.cast_one, div_one]
    exact_mod_cast h
  · rename_i hk
    have hzero : k.toNat = 0 := by omega
    rw [hzero, pow_zero, mul_one_div] at h
    apply roundRatio_of_roundsTo hfits hdigits (by rw [Nat.pow_eq]; positivity)
    rw [Nat.pow_eq]
    exact_mod_cast h

/-- Digits of a number other than zero are not all zero. -/
theorem RoundsTo.digits_pos (h : RoundsTo m e (digits * 10 ^ k)) (hm : 0 < m) : 0 < digits := by
  rw [Nat.pos_iff_ne_zero]
  rintro rfl
  have hpos := h.pos hm
  rw [Nat.cast_zero, zero_mul] at hpos
  exact hpos.false

/-- A decimal that rounds to a magnitude is read as that magnitude. -/
theorem ofDecimal_of_roundsTo (hfits : Fits m e) (hm : 0 < m) (h : RoundsTo m e (digits * 10 ^ k)) :
    ofDecimal negative digits k = withSign negative (Float.ofBits (.ofNat (wordOf m e))) := by
  have hdigits := h.digits_pos hm
  have hbracket := mul_zpow_bracket hdigits k
  have hlarge := (zpow_lt_zpow_iff_right₀ (by norm_num)).1 (hbracket.1.trans_lt (h.lt_huge hfits))
  have hsmall := (zpow_lt_zpow_iff_right₀ (by norm_num)).1 ((h.tiny_lt hfits hm).trans hbracket.2)
  have hnotLarge : ¬ 400 < k + (Nat.toDigits 10 digits).length := by omega
  have hnotSmall : ¬ k + (Nat.toDigits 10 digits).length < -400 := by omega
  unfold ofDecimal
  simp only []
  rw [if_neg hdigits.ne', if_neg hnotLarge, if_neg hnotSmall, roundRatio_decimal hfits hdigits h]
  rfl

/-! ## Positional texts -/

/-- Digits with at most one point among them, and the number that they stand for. -/
inductive Positional : List Char → ℚ → Prop where
  | whole {ds : List Char} (hne : ds ≠ []) (hds : ∀ c ∈ ds, c.isDigit = true) :
      Positional ds (Text.value ds)
  | point {ds fs : List Char} (hne : ds ≠ []) (hds : ∀ c ∈ ds, c.isDigit = true)
      (hfs : ∀ c ∈ fs, c.isDigit = true) :
      Positional (ds ++ '.' :: fs) (Text.value (ds ++ fs) * 10 ^ (-(fs.length : ℤ)))

/-- Zeros at the end multiply a value by powers of ten. -/
theorem value_append_zeros (cs : List Char) (count : ℕ) :
    Text.value (cs ++ List.replicate count '0') = Text.value cs * 10 ^ count := by
  induction count with
  | zero => simp
  | succ count ih =>
      have hzero : '0'.toNat - '0'.toNat = 0 := rfl
      rw [List.replicate_succ', ← List.append_assoc, Text.value_concat, ih, hzero, pow_succ]
      ring

/-- Zeros are digits. -/
theorem isDigit_of_mem_zeros {c : Char} {count : ℕ} (hc : c ∈ List.replicate count '0') :
    c.isDigit = true := by
  rw [List.eq_of_mem_replicate hc]
  rfl

/-- A whole decimal has zeros behind its digits. -/
theorem positional_whole (hk : 0 ≤ k) :
    Positional (Text.digits n ++ List.replicate k.toNat '0') (n * 10 ^ k) := by
  have hvalue : ((Text.value (Text.digits n ++ List.replicate k.toNat '0') : ℕ) : ℚ) =
      n * 10 ^ k := by
    have hpow : (10 : ℚ) ^ k = 10 ^ k.toNat := by
      rw [← zpow_natCast, Int.toNat_of_nonneg hk]
    rw [value_append_zeros, Text.value_digits, hpow]
    push_cast
    rfl
  rw [← hvalue]
  apply Positional.whole
  · exact List.append_ne_nil_of_left_ne_nil (Text.digits_ne_nil _) _
  · rw [List.forall_mem_append]
    exact ⟨fun c => Text.isDigit_of_mem_digits, fun c => isDigit_of_mem_zeros⟩

/-- A decimal with a fraction has a point among its digits and the zeros in front of them, with as
many places behind it as the exponent asks for. -/
theorem positional_point {places zeros : ℕ} (hk : k = -(places : ℤ)) {all : List Char}
    (hall : all = List.replicate zeros '0' ++ Text.digits n) (hlt : places < all.length) :
    Positional (all.take (all.length - places) ++ '.' :: all.drop (all.length - places))
      (n * 10 ^ k) := by
  have hdigits : ∀ c ∈ all, c.isDigit = true := by
    rw [hall, List.forall_mem_append]
    exact ⟨fun c => isDigit_of_mem_zeros, fun c => Text.isDigit_of_mem_digits⟩
  have hvalue : Text.value all = n := by
    rw [hall, Text.value_replicate_zero, Text.value_digits]
  have hplaces : (all.drop (all.length - places)).length = places := by
    rw [List.length_drop]
    omega
  have hwhole : all.take (all.length - places) ≠ [] := by
    apply List.ne_nil_of_length_pos
    rw [List.length_take]
    omega
  have hfraction : ∀ c ∈ all.drop (all.length - places), c.isDigit = true :=
    fun c hc => hdigits c (List.mem_of_mem_drop hc)
  have hform := Positional.point hwhole (fun c hc => hdigits c (List.mem_of_mem_take hc)) hfraction
  rwa [List.take_append_drop, hvalue, hplaces, ← hk] at hform

/-- A decimal is written positionally. -/
theorem positional_spec (d : Magnitude) : Positional d.positional.toList d.value := by
  unfold Magnitude.positional Magnitude.value
  simp only []
  split
  · rename_i hwhole
    rw [String.toList_ofList]
    exact positional_whole hwhole
  · rename_i hneg
    rw [String.toList_ofList]
    apply positional_point (by omega) rfl
    -- zeros are put in front until there is a digit before the point
    rw [List.length_append, List.length_replicate, Text.digits]
    omega

/-! ## Reading -/

/-- Digits are taken off up to the first other character. -/
theorem span_isDigit (hds : ∀ c ∈ ds, c.isDigit = true)
    (hrest : ∀ c ∈ rest.head?, c.isDigit = false) :
    (ds ++ rest).span Char.isDigit = (ds, rest) := by
  rw [List.span_eq_takeWhile_dropWhile, List.takeWhile_append_of_pos hds,
    List.dropWhile_append_of_pos hds]
  cases rest with
  | nil => simp
  | cons c rest =>
      have hc := hrest c rfl
      simp [hc]

/-- Digits end where the text does. -/
theorem span_digits (hds : ∀ c ∈ ds, c.isDigit = true) : ds.span Char.isDigit = (ds, []) := by
  have hspan : (ds ++ []).span Char.isDigit = (ds, []) := span_isDigit hds (by simp)
  rwa [List.append_nil] at hspan

/-- Digits before and behind the point are read as one number. -/
theorem readUnsigned_eq (hspan : cs.span Char.isDigit = (ds, rest))
    (hfraction : takeFraction rest = (fs, [])) (hne : ds ≠ []) :
    readUnsigned negative cs =
      some (ofDecimal negative (Text.value (ds ++ fs)) (-(fs.length : ℤ))) := by
  simp only [readUnsigned, hspan, hfraction, hne, false_and, if_false, readExponent,
    Option.map_some, zero_sub]

/-- A positional text is read as the number that it stands for. -/
theorem readUnsigned_of_positional (negative : Bool) (h : Positional cs v) :
    ∃ (digits : ℕ) (k : ℤ), (digits : ℚ) * 10 ^ k = v ∧
      readUnsigned negative cs = some (ofDecimal negative digits k) := by
  cases h with
  | whole hne hds =>
      refine ⟨_, _, ?_, readUnsigned_eq (span_digits hds) rfl hne⟩
      simp
  | @point ds fs hne hds hfs =>
      have hspan : (ds ++ '.' :: fs).span Char.isDigit = (ds, '.' :: fs) :=
        span_isDigit hds (by simp)
      exact ⟨_, _, rfl, readUnsigned_eq hspan (span_digits hfs) hne⟩

/-- Every positional text begins with a digit. -/
theorem Positional.exists_cons (h : Positional cs v) :
    ∃ d rest, cs = d :: rest ∧ d.isDigit = true := by
  cases h with
  | whole hne hds =>
      rcases List.exists_cons_of_ne_nil hne with ⟨d, ds, rfl⟩
      exact ⟨d, ds, rfl, hds d List.mem_cons_self⟩
  | point hne hds _ =>
      rcases List.exists_cons_of_ne_nil hne with ⟨d, ds, rfl⟩
      exact ⟨d, _, rfl, hds d List.mem_cons_self⟩

/-- A digit is neither a sign nor the first letter of a word. -/
theorem takeSign_of_digit {d : Char} (hd : d.isDigit = true) (rest : List Char) :
    takeSign (d :: rest) = (false, d :: rest) := by
  have hminus : d ≠ '-' := by
    rintro rfl
    exact absurd hd (by decide)
  have hplus : d ≠ '+' := by
    rintro rfl
    exact absurd hd (by decide)
  rw [takeSign, if_neg hminus, if_neg hplus]

/-- What begins with a digit is no word. -/
theorem special?_of_digit {d : Char} (hd : d.isDigit = true) (rest : List Char) :
    special? (d :: rest) = none := by
  have hlower : d.toLower = d := by
    unfold Char.toLower
    exact dif_neg (by grind [Char.isDigit])
  have hi : d ≠ 'i' := by
    rintro rfl
    exact absurd hd (by decide)
  have hn : d ≠ 'n' := by
    rintro rfl
    exact absurd hd (by decide)
  simp [special?, hlower, hi, hn]

/-- A positional text with or without a minus sign is read as the number that it stands for. -/
theorem read_of_positional (h : Positional cs v) :
    ∃ (digits : ℕ) (k : ℤ), (digits : ℚ) * 10 ^ k = v ∧
      read ((if negative then "-" else "").toList ++ cs) = some (ofDecimal negative digits k) := by
  rcases h.exists_cons with ⟨d, rest, rfl, hd⟩
  rcases readUnsigned_of_positional negative h with ⟨digits, k, hvalue, hread⟩
  refine ⟨digits, k, hvalue, ?_⟩
  have hsign : takeSign ((if negative then "-" else "").toList ++ d :: rest) =
      (negative, d :: rest) := by
    cases negative with
    | false => exact takeSign_of_digit hd rest
    | true => rfl
  simp only [read, hsign, special?_of_digit hd, hread]

/-! ## Numbers and their texts -/

/-- The word for infinity is read as infinity, with its sign. -/
theorem read_infinite : read (if negative then "-inf" else "inf").toList =
    some (withSign negative (Float.ofBits (.ofNat (2047 * leadingBit)))) := by
  cases negative <;> rfl

/-- Zero has the least exponent, and no digits. -/
theorem ofDecimal_zero (hfits : Fits m e) (hm : m = 0)
    (h : (digits : ℚ) * 10 ^ k = (shortest m e).value) :
    ofDecimal negative digits k = withSign negative (Float.ofBits (.ofNat (wordOf m e))) := by
  subst hm
  have he : e = minExponent := hfits.full.resolve_left (by decide)
  have hdigits : digits = 0 := by
    have hten : (10 : ℚ) ^ k ≠ 0 := zpow_ne_zero k (by norm_num)
    have hzero : (digits : ℚ) * 10 ^ k = 0 := h.trans (by simp [shortest, Magnitude.value])
    exact_mod_cast (mul_eq_zero.1 hzero).resolve_right hten
  subst he hdigits
  rfl

/-- A number is read back from its text. -/
theorem read_text (h : x.isNaN = false) : read (text x).toList = some x := by
  unfold text
  split
  · rename_i hnan
    rw [isNaN_of_nan hnan] at h
    cases h
  · rename_i negative hinfinite
    rw [read_infinite, eq_withSign le_rfl (toBits_of_infinite hinfinite)]
  · rename_i negative m e hfinite
    rcases toBits_of_finite hfinite with ⟨hfits, hbits⟩
    have hword : x = withSign negative (Float.ofBits (.ofNat (wordOf m e))) :=
      eq_withSign hfits.wordOf_lt.le hbits
    rcases read_of_positional (positional_spec (shortest m e)) with ⟨digits, k, hvalue, hread⟩
    rw [String.toList_append, hread, hword]
    rcases Nat.eq_zero_or_pos m with hzero | hm
    · rw [ofDecimal_zero hfits hzero hvalue]
    · have hround := roundsTo_shortest hfits hm
      rw [← hvalue] at hround
      rw [ofDecimal_of_roundsTo hfits hm hround]

/-! ## Blanks -/

/-- No blanks are in a positional text. -/
theorem Positional.not_blank (h : Positional cs v) {c : Char} (hc : c ∈ cs) :
    Text.isBlank c = false := by
  cases h with
  | whole _ hds => exact Text.not_blank_of_isDigit (hds c hc)
  | point _ hds hfs =>
      rcases List.mem_append.1 hc with hwhole | hrest
      · exact Text.not_blank_of_isDigit (hds c hwhole)
      · rcases List.mem_cons.1 hrest with rfl | hfraction
        · rfl
        · exact Text.not_blank_of_isDigit (hfs c hfraction)

/-- No blanks are in a written number. -/
theorem not_blank_of_mem_text (x : Float) : ∀ c ∈ (text x).toList, Text.isBlank c = false := by
  unfold text
  split
  · exact Text.not_blank_of_all rfl
  · rename_i negative _
    cases negative <;> exact Text.not_blank_of_all rfl
  · rename_i negative m e _
    have hsign : ∀ c ∈ (if negative then "-" else "").toList, Text.isBlank c = false := by
      cases negative <;> exact Text.not_blank_of_all rfl
    rw [String.toList_append, List.forall_mem_append]
    exact ⟨hsign, fun c => (positional_spec (shortest m e)).not_blank⟩

end TrafficQueue.Decimal
