import Mathlib
import TrafficQueue.Decimal.Binary64

/-!
# The bits of a number

A floating-point number is a word of 64 bits in which there is only one way to write not-a-number,
so it is known by its bits.  Seen as a natural number the word of a magnitude without a sign is
`wordOf`: the exponent counts from the 53rd digit on, and a full mantissa runs over into it.

Main results:

- Theorem `Rounding.pack_unpack`: a word that is taken apart is put together again.
- Theorem `ofBits_toBits`: a number is made from its own bits.
- Definition `Decimal.Fits`: the mantissas and exponents of the finite numbers.
- Theorems `Decimal.toBits_of_finite` and `Decimal.toBits_of_infinite`: the bits of a number that is
  taken apart.
- Theorem `Decimal.eq_withSign`: a number is made from its sign and the word of its magnitude.
-/

namespace TrafficQueue

namespace Rounding

open Float.Model (Format UnpackedFloat)
open Float.Model.UnpackedFloat

variable {spec : Format} {s : Sign} {b : BitVec Format.binary64.numBits}

/-! ## The parts of a word -/

/-- The sign of a packed number is the one that it was packed with. -/
theorem unpackSign_packComponents {exponent : BitVec spec.exponentBits}
    {mantissa : BitVec spec.mantissaBitsWithoutImplicit} :
    unpackSign (packComponents spec s exponent mantissa) = s.toBitVec := by
  ext i hi
  have hzero : i = 0 := by omega
  subst hzero
  simp [unpackSign, packComponents, BitVec.getLsbD_append, BitVec.getElem_append]

/-- A sign is known by its bit. -/
theorem ofBitVec_toBitVec (s : Sign) : Sign.ofBitVec s.toBitVec = s := by
  cases s <;> rfl

/-- A bit is known by its sign. -/
theorem toBitVec_ofBitVec (v : BitVec 1) : (Sign.ofBitVec v).toBitVec = v := by
  revert v
  decide

/-- A packed number is put together from its parts. -/
theorem packComponents_unpack (b : BitVec Format.binary64.numBits) :
    packComponents .binary64 (Sign.ofBitVec (unpackSign b)) (unpackExponent b) (unpackMantissa b) =
      b := by
  rw [packComponents, toBitVec_ofBitVec]
  simp only [unpackSign, unpackExponent, unpackMantissa, BitVec.extractLsb]
  ext i hi
  grind

/-- The leading bit stands before the others. -/
theorem toNat_mantissa (v : BitVec 52) : (1#1 ++ v).toNat = 2 ^ 52 + v.toNat := by
  rw [BitVec.toNat_append, ← Nat.shiftLeft_add_eq_or_of_lt v.isLt]
  simp [Nat.shiftLeft_eq]

/-- The exponent is in the middle of the word. -/
theorem toNat_unpackExponent (b : BitVec Format.binary64.numBits) :
    (unpackExponent b).toNat = b.toNat / 2 ^ 52 % 2 ^ 11 := by
  simp [unpackExponent, Nat.shiftRight_eq_div_pow]

/-- The mantissa is at the end of the word. -/
theorem toNat_unpackMantissa (b : BitVec Format.binary64.numBits) :
    (unpackMantissa b).toNat = b.toNat % 2 ^ 52 := by
  simp [unpackMantissa]

/-- The sign is at the front of the word. -/
theorem toNat_unpackSign (b : BitVec Format.binary64.numBits) :
    (unpackSign b).toNat = b.toNat / 2 ^ 63 := by
  have hlt : b.toNat < 2 ^ 64 := b.isLt
  simp [unpackSign, Nat.shiftRight_eq_div_pow]
  omega

/-! ## Packing -/

/-- Fewer digits than a full mantissa has go with the first exponent. -/
theorem pack_subnormal {m : Nat} {e : Int} (hm : 0 < m) (hlt : m < 2 ^ 52)
    (he : e = -1074) :
    pack .binary64 (.finite s m e hm) = packComponents .binary64 s 0#_ (BitVec.ofNat _ m) := by
  subst he
  have hlog := (Nat.log2_lt (Nat.pos_iff_ne_zero.1 hm)).2 hlt
  have hbits : Format.binary64.mantissaBits = 53 := rfl
  have hshort : m.log2 + 1 ≠ 53 := by omega
  simp only [pack, hbits, hshort, if_false]
  exact if_neg (by decide)

/-- A full mantissa is packed without its leading digit. -/
theorem pack_normal {exponent : BitVec 11} {mantissa : BitVec 52} {e : Int}
    (hm : 0 < (1#1 ++ mantissa).toNat) (hlast : exponent ≠ -1#_) (he : e = exponent.toNat - 1075) :
    pack .binary64 (.finite s (1#1 ++ mantissa).toNat e hm) =
      packComponents .binary64 s exponent mantissa := by
  have hvalue := toNat_mantissa mantissa
  have hlt : mantissa.toNat < 2 ^ 52 := mantissa.isLt
  have hbits : Format.binary64.mantissaBits = 53 := rfl
  have hlog : (1#1 ++ mantissa).toNat.log2 + 1 = 53 := by
    rw [hvalue, (Nat.log2_eq_iff (by omega)).2 ⟨Nat.le_add_right _ _, by omega⟩]
  have hbias : (e + Format.binary64.exponentBias +
      Format.binary64.mantissaBitsWithoutImplicit).toNat = exponent.toNat := by
    change (e + (1023 : Nat) + (52 : Nat)).toNat = exponent.toNat
    omega
  have hbelow : ¬ 2 ^ Format.binary64.exponentBits ≤ exponent.toNat + 1 := by
    intro hge
    have hlast' : (-1#11).toNat = 2047 := rfl
    have hge' : 2048 ≤ exponent.toNat + 1 := hge
    have hlt' : exponent.toNat < 2048 := exponent.isLt
    exact hlast (BitVec.eq_of_toNat_eq (by omega))
  have hrest : BitVec.ofNat 52 (1#1 ++ mantissa).toNat = mantissa := by
    apply BitVec.eq_of_toNat_eq
    rw [BitVec.toNat_ofNat, hvalue]
    omega
  rw [pack]
  simp only [hbits, hlog, hbias, hbelow, if_true, if_false]
  rw [BitVec.ofNat_toNat, BitVec.setWidth_eq, hrest]

/-- Packing puts together what was taken apart. -/
theorem pack_unpack (h : Format.binary64.Valid b) : pack .binary64 (unpack .binary64 b) = b := by
  have hparts := packComponents_unpack b
  unfold unpack
  simp only []
  split
  · rename_i hlast
    split
    · rename_i hzero
      rw [hlast, hzero] at hparts
      exact hparts
    · rename_i hne
      exact (h.eq_packedNaN hlast hne).symm
  · rename_i hlast
    split
    · rename_i hfirst
      split
      · rename_i hzero
        rw [hfirst, hzero] at hparts
        exact hparts
      · rw [hfirst] at hparts ⊢
        refine (pack_subnormal _ (unpackMantissa b).isLt rfl).trans ?_
        rw [BitVec.ofNat_toNat, BitVec.setWidth_eq]
        exact hparts
    · exact (pack_normal _ hlast rfl).trans hparts

/-- The last exponent with any mantissa but zero. -/
theorem isNaN_unpack (hlast : b.toNat / 2 ^ 52 % 2 ^ 11 = 2047) (hne : b.toNat % 2 ^ 52 ≠ 0) :
    (unpack .binary64 b).isNaN = true := by
  have hexponent : unpackExponent b = -1#_ := by
    apply BitVec.eq_of_toNat_eq
    rw [toNat_unpackExponent]
    exact hlast
  have hmantissa : unpackMantissa b ≠ 0#_ := by
    intro hzero
    have hfraction := congrArg BitVec.toNat hzero
    rw [toNat_unpackMantissa] at hfraction
    exact hne hfraction
  unfold unpack
  simp only [hexponent, hmantissa, if_true, if_false]
  rfl

/-- Up to infinity there is nothing but numbers. -/
theorem valid_of_le (h : b.toNat ≤ 2047 * 2 ^ 52) : Format.binary64.Valid b := by
  constructor
  intro hlast hne
  have hexponent := congrArg BitVec.toNat hlast
  rw [toNat_unpackExponent] at hexponent
  change b.toNat / 2 ^ 52 % 2 ^ 11 = 2047 at hexponent
  have hmantissa : unpackMantissa b = 0#_ := by
    apply BitVec.eq_of_toNat_eq
    rw [toNat_unpackMantissa]
    change b.toNat % 2 ^ 52 = 0
    omega
  exact absurd hmantissa hne

/-- Of two numbers that differ in their first bit only each is the other one with a minus sign. -/
theorem unpack_of_signed {b' : BitVec Format.binary64.numBits} (hpos : b.toNat < 2 ^ 63)
    (h : b'.toNat = 2 ^ 63 + b.toNat) :
    unpack .binary64 b' = (unpack .binary64 b).neg := by
  have hexponent : unpackExponent b' = unpackExponent b := by
    apply BitVec.eq_of_toNat_eq
    rw [toNat_unpackExponent, toNat_unpackExponent]
    omega
  have hmantissa : unpackMantissa b' = unpackMantissa b := by
    apply BitVec.eq_of_toNat_eq
    rw [toNat_unpackMantissa, toNat_unpackMantissa]
    omega
  have hsign : unpackSign b = 0#1 := by
    apply BitVec.eq_of_toNat_eq
    rw [toNat_unpackSign]
    exact Nat.div_eq_of_lt hpos
  have hsign' : unpackSign b' = 1#1 := by
    have hone : (1#1).toNat = 1 := rfl
    apply BitVec.eq_of_toNat_eq
    rw [toNat_unpackSign, hone]
    omega
  unfold unpack
  simp only [hexponent, hmantissa, hsign, hsign']
  split
  · split <;> rfl
  · split
    · split <;> rfl
    · rfl

end Rounding

/-! ## Numbers and their words -/

open Float.Model (UnpackedFloat)

/-- A number is made from its own bits. -/
theorem ofBits_toBits (x : Float) : Float.ofBits x.toBits = x := by
  rcases x with ⟨⟨bits, hvalid⟩⟩
  change Float.ofModel ⟨UInt64.ofBitVec _, _⟩ = _
  have hbits := Rounding.pack_unpack hvalid
  simp only [Float.ofModel.injEq, Float.Model.mk.injEq]
  exact congrArg UInt64.ofBitVec hbits

/-- A word that is a number is the bits of that number. -/
theorem toBits_ofBits {n : UInt64} (h : Float.Model.Format.binary64.Valid n.toBitVec) :
    (Float.ofBits n).toBits = n :=
  congrArg UInt64.ofBitVec (Rounding.pack_unpack h)

/-- Of two numbers that differ in their first bit only each is the other one with a minus sign. -/
theorem eq_neg_of_toBits {x y : Float} (hpos : y.toBits.toNat < 2 ^ 63)
    (h : x.toBits.toNat = 2 ^ 63 + y.toBits.toNat) : x = -y := by
  rw [← ofBits_toBits x]
  have hunpack : UnpackedFloat.unpack .binary64 x.toBits.toBitVec =
      (UnpackedFloat.unpack .binary64 y.toBits.toBitVec).neg := Rounding.unpack_of_signed hpos h
  exact congrArg (fun f => Float.ofModel (.pack f)) hunpack

namespace Decimal

/-! ## The word of a magnitude -/

/-- What mantissa and exponent of a finite number are like: the mantissa is full unless the exponent
is the least one. -/
structure Fits (mantissa : Nat) (exponent : Int) : Prop where
  lt : mantissa < 2 * leadingBit
  full : leadingBit ≤ mantissa ∨ exponent = minExponent
  least : minExponent ≤ exponent
  greatest : exponent ≤ 971

/-- The bits of a magnitude.  A full mantissa runs over into the exponent, so its leading digit
makes the difference between the least exponent and no exponent at all. -/
def wordOf (mantissa : Nat) (exponent : Int) : Nat :=
  (exponent - minExponent).toNat * leadingBit + mantissa

/-- The bit in front, which is set below zero. -/
def signBit (negative : Bool) : Nat := if negative then 2 ^ 63 else 0

variable {x : Float} {negative : Bool} {m : Nat} {e : Int}

/-- A number that fits has a word below that of infinity. -/
theorem Fits.wordOf_lt (h : Fits m e) : wordOf m e < 2047 * leadingBit := by
  rcases h with ⟨hlt, -, hleast, hgreatest⟩
  simp only [wordOf, leadingBit, minExponent] at *
  omega

/-- The bit in front of a word. -/
theorem signBit_beq {bits : Nat} (h : bits < 2 ^ 64) :
    signBit (bits >>> 63 == 1) = bits / 2 ^ 63 * 2 ^ 63 := by
  have hfront : bits / 2 ^ 63 = 0 ∨ bits / 2 ^ 63 = 1 := by omega
  rw [Nat.shiftRight_eq_div_pow]
  rcases hfront with h | h <;> rw [h] <;> rfl

/-- A finite number is told from its bits. -/
theorem toBits_of_finite (h : Binary64.ofFloat x = .finite negative m e) :
    Fits m e ∧ x.toBits.toNat = signBit negative + wordOf m e := by
  have hlt := x.toBits.toNat_lt
  unfold Binary64.ofFloat at h
  simp only [] at h
  split at h
  · split at h <;> cases h
  · rename_i hlast
    split at h
    · rename_i hfirst
      cases h
      rw [signBit_beq hlt]
      simp only [leadingBit] at hlast hfirst
      refine ⟨⟨?_, .inr rfl, ?_, ?_⟩, ?_⟩ <;> simp only [wordOf, leadingBit, minExponent] <;> omega
    · rename_i hfirst
      cases h
      rw [signBit_beq hlt]
      simp only [leadingBit] at hlast hfirst
      refine ⟨⟨?_, .inl ?_, ?_, ?_⟩, ?_⟩ <;> simp only [wordOf, leadingBit, minExponent] <;> omega

/-- The word of infinity has all bits of the exponent, and no others but the sign. -/
theorem toBits_of_infinite (h : Binary64.ofFloat x = .infinite negative) :
    x.toBits.toNat = signBit negative + 2047 * leadingBit := by
  have hlt := x.toBits.toNat_lt
  unfold Binary64.ofFloat at h
  simp only [] at h
  split at h
  · rename_i hlast
    split at h
    · rename_i hzero
      cases h
      rw [signBit_beq hlt]
      simp only [leadingBit] at *
      omega
    · cases h
  · split at h <;> cases h

/-- A word up to that of infinity. -/
theorem toNat_ofNat_word {n : Nat} (h : n ≤ 2047 * leadingBit) : (UInt64.ofNat n).toNat = n := by
  apply UInt64.toNat_ofNat_of_lt'
  simp only [leadingBit, UInt64.size] at *
  omega

/-- What is read as not a number is none. -/
theorem isNaN_of_nan (h : Binary64.ofFloat x = .nan) : x.isNaN = true := by
  unfold Binary64.ofFloat at h
  simp only [] at h
  split at h
  · rename_i hlast
    split at h
    · cases h
    · rename_i hne
      exact Rounding.isNaN_unpack hlast hne
  · split at h <;> cases h

/-- A word up to that of infinity is a number, so its bits are its own. -/
theorem toBits_ofBits_word {n : Nat} (h : n ≤ 2047 * leadingBit) :
    (Float.ofBits (.ofNat n)).toBits = .ofNat n := by
  apply toBits_ofBits
  apply Rounding.valid_of_le
  rw [UInt64.toNat_toBitVec, toNat_ofNat_word h]
  exact h

/-- The number itself, or the one with a minus sign. -/
def withSign (negative : Bool) (x : Float) : Float := if negative then -x else x

/-- A number is made from its sign and its word. -/
theorem eq_withSign {n : Nat} (h : n ≤ 2047 * leadingBit)
    (hbits : x.toBits.toNat = signBit negative + n) :
    x = withSign negative (Float.ofBits (.ofNat n)) := by
  have hword : (Float.ofBits (.ofNat n)).toBits.toNat = n := by
    rw [toBits_ofBits_word h, toNat_ofNat_word h]
  have hsmall : n < 2 ^ 63 := by
    simp only [leadingBit] at h
    omega
  cases negative with
  | false =>
      have heq : x.toBits = .ofNat n := by
        apply UInt64.toNat_inj.1
        rw [hbits, toNat_ofNat_word h]
        exact Nat.zero_add n
      rw [← ofBits_toBits x, heq]
      rfl
  | true =>
      apply eq_neg_of_toBits
      · rwa [hword]
      · rw [hword]
        exact hbits

end Decimal

end TrafficQueue
