import Mathlib
import TrafficQueue.Proofs.Decimal.Bits
import TrafficQueue.Queue.Flow

/-!
# Buckets that stay full

A share above the tolerance is infinite or a normal floating-point number.  The sum of
such a number with itself has the same digits and the next exponent, or is infinite, so
it is not smaller.  Hence a full bucket is full again after the start of a step, and a
vehicle may leave.

Main results:

- Definition `FlowBucket.Steady`: a bucket that stays as it is and is open.
- Theorem `leastNumber_add_self`: of a share above the tolerance and twice the share the
  share is the smaller number.
- Theorem `FlowBucket.steady_full`: a full bucket with such a share is steady.
-/

namespace TrafficQueue

/-! ## Normal numbers -/

namespace Rounding

open Float.Model (Format UnpackedFloat)
open Float.Model.UnpackedFloat

/-- A positive number of full precision with the given exponent. -/
inductive Normal (e : Int) : UnpackedFloat → Prop where
  | intro {m : Nat} (hm : 0 < m) (hlo : 2 ^ 52 ≤ m) (hhi : m < 2 ^ 53) (he : -1074 ≤ e) :
      Normal e (.finite .positive m e hm)

variable {e : Int} {f g : UnpackedFloat}

/-- The larger exponent makes the larger number. -/
theorem Normal.not_le (hf : Normal e f) (hg : Normal (e + 1) g) : g.le f = false := by
  cases hf
  cases hg
  have hgt : compare (e + 1) e = .gt := Int.compare_eq_gt.2 (by omega)
  simp [UnpackedFloat.le, UnpackedFloat.compare, hgt]

/-- Infinity is larger than a normal number. -/
theorem Normal.infinity_not_le (hf : Normal e f) :
    UnpackedFloat.le (.infinity .positive) f = false := by
  cases hf
  rfl

/-- A normal number is a number. -/
theorem Normal.isNaN_eq_false (hf : Normal e f) : f.isNaN = false := by
  cases hf
  rfl

/-- A mantissa of 53 digits stays as it is where it belongs. -/
theorem targetExponent_of_normal {m : Nat} (hlo : 2 ^ 52 ≤ m) (hhi : m < 2 ^ 53)
    (he : -1074 ≤ e) :
    Format.binary64.targetExponent (Float.Model.totalExponent m e) = e := by
  have hlog : m.log2 = 52 := (Nat.log2_eq_iff (by omega)).2 ⟨hlo, hhi⟩
  have hmin : Format.binary64.minExponent = -1074 := rfl
  have hbits : Format.binary64.mantissaBits = 53 := rfl
  simp only [Format.targetExponent, Float.Model.totalExponent, hlog, hmin, hbits]
  omega

/-- One digit more moves the exponent. -/
theorem targetExponent_of_double {m : Nat} (hlo : 2 ^ 52 ≤ m) (hhi : m < 2 ^ 53)
    (he : -1074 ≤ e) :
    Format.binary64.targetExponent (Float.Model.totalExponent (m + m) e) = e + 1 := by
  have hlog : (m + m).log2 = 53 := (Nat.log2_eq_iff (by omega)).2 ⟨by omega, by omega⟩
  have hmin : Format.binary64.minExponent = -1074 := rfl
  have hbits : Format.binary64.mantissaBits = 53 := rfl
  simp only [Format.targetExponent, Float.Model.totalExponent, hlog, hmin, hbits]
  omega

/-- Twice a normal number has the same digits and the next exponent. -/
theorem add_self_of_normal {m : Nat} (hm : 0 < m) (hlo : 2 ^ 52 ≤ m) (hhi : m < 2 ^ 53)
    (he : -1074 ≤ e) :
    add .binary64 (.finite .positive m e hm) (.finite .positive m e hm) =
      .finite .positive m (e + 1) hm := by
  have hround : UnpackedFloat.round .binary64 .positive (m + m) e =
      .finite .positive m (e + 1) hm := by
    have hhalf : (m + m) / 2 = m := by omega
    have heven : (m + m) % 2 = 0 := by omega
    have hdouble := targetExponent_of_double hlo hhi he
    have hdone : Format.binary64.targetExponent (Float.Model.totalExponent m (e + 1)) = e + 1 :=
      targetExponent_of_normal hlo hhi (by omega)
    simp [UnpackedFloat.round, decreaseExponent, hdouble, roundWithAccuracy,
      shiftToTargetExponent, shiftToExponent, ExtendedMantissa.ofMantissaAndAccuracy,
      ExtendedMantissa.roundedMantissa, ExtendedMantissa.accuracy, Accuracy.roundToNearestEven,
      HShiftRight.hShiftRight, Nat.repeat, ExtendedMantissa.shiftRightOne, hhalf, heven, hdone]
    exact dif_neg (Nat.pos_iff_ne_zero.1 hm)
  have hpos : compare ((m : Int) + m) 0 = .gt := Int.compare_eq_gt.2 (by omega)
  have hnat : ((m : Int) + m).toNat = m + m := by omega
  simp [add, decreaseExponent, Sign.apply, UnpackedFloat.normalize, hpos, hnat, hround]

/-- Twice a normal number is a normal number. -/
theorem Normal.add_self (hf : Normal e f) : Normal (e + 1) (add .binary64 f f) := by
  cases hf with
  | intro hm hlo hhi he =>
      rw [add_self_of_normal hm hlo hhi he]
      exact .intro hm hlo hhi (by omega)

/-! ## Packed numbers -/

section Packed

variable {b : BitVec Format.binary64.numBits}

/-- With an exponent that is neither the first nor the last one a positive number is normal. -/
theorem normal_unpack (hsign : Sign.ofBitVec (unpackSign b) = .positive)
    (hfirst : unpackExponent b ≠ 0#_) (hlast : unpackExponent b ≠ -1#_) :
    Normal ((unpackExponent b).toNat - 1075) (unpack .binary64 b) := by
  have hmantissa := toNat_mantissa (unpackMantissa b)
  have hlt : (unpackMantissa b).toNat < 2 ^ 52 := (unpackMantissa b).isLt
  have hpos : 0 < (1#1 ++ unpackMantissa b).toNat := by omega
  have hone : (unpackExponent b).toNat ≠ 0 := fun hzero => hfirst (BitVec.eq_of_toNat_eq hzero)
  have hunpack : unpack .binary64 b =
      .finite .positive (1#1 ++ unpackMantissa b).toNat ((unpackExponent b).toNat - 1075) hpos := by
    simp only [unpack, hfirst, hlast, hsign, if_false]
    rfl
  rw [hunpack]
  exact .intro hpos (by omega) (by omega) (by omega)

/-- A positive number with more than the least exponent is normal. -/
theorem normal_of_unpack {m : Nat} {hm : 0 < m}
    (h : unpack .binary64 b = .finite .positive m e hm) (he : -1074 < e) :
    Normal e (unpack .binary64 b) := by
  have hfields := h
  simp only [unpack] at hfields
  split at hfields
  · split at hfields <;> cases hfields
  · rename_i hlast
    split at hfields
    · rename_i hfirst
      split at hfields
      · cases hfields
      · simp only [UnpackedFloat.finite.injEq] at hfields
        have hleast : ((unpackExponent b).toNat : Int) - ((1023 : Nat) + (52 : Nat)) + 1 = e :=
          hfields.2.2
        have hzero : (unpackExponent b).toNat = 0 := by
          rw [hfirst]
          rfl
        omega
    · rename_i hfirst
      simp only [UnpackedFloat.finite.injEq] at hfields
      have hexponent : ((unpackExponent b).toNat : Int) - 1075 = e := hfields.2.2
      rw [← hexponent]
      exact normal_unpack hfields.1 hfirst hlast

end Packed

/-- There is one infinite positive number. -/
theorem eq_pack_infinity {f : Float.Model} (h : f.unpack = .infinity .positive) :
    f = .pack (.infinity .positive) := by
  rcases f with ⟨bits, hvalid⟩
  have hbits := packComponents_unpack bits.toBitVec
  simp only [Float.Model.unpack, unpack] at h
  split at h
  · rename_i hlast
    split at h
    · rename_i hmantissa
      rw [hlast, hmantissa, UnpackedFloat.infinity.inj h] at hbits
      simp only [Float.Model.pack, Float.Model.mk.injEq]
      exact UInt64.eq_of_toBitVec_eq hbits.symm
    · cases h
  · split at h
    · split at h <;> cases h
    · cases h

/-- A normal number remains normal when it is packed, or becomes infinite. -/
theorem Normal.unpack_pack (hf : Normal e f) :
    (Float.Model.pack f).unpack = .infinity .positive ∨ Normal e (Float.Model.pack f).unpack := by
  cases hf with
  | @intro m hm hlo hhi he =>
      have hlog : m.log2 = 52 := (Nat.log2_eq_iff (by omega)).2 ⟨hlo, hhi⟩
      have hbits : Format.binary64.mantissaBits = 53 := rfl
      have hbias : (e + Format.binary64.exponentBias +
          Format.binary64.mantissaBitsWithoutImplicit).toNat = (e + 1075).toNat := by
        change (e + (1023 : Nat) + (52 : Nat)).toNat = (e + 1075).toNat
        omega
      unfold Float.Model.unpack Float.Model.pack
      simp only [pack, hlog, hbits, hbias]
      by_cases hlarge : 2 ^ Format.binary64.exponentBits ≤ (e + 1075).toNat + 1
      · simp only [hlarge, if_true]
        exact .inl rfl
      · have hsmall : (e + 1075).toNat + 1 < 2048 := Nat.lt_of_not_le hlarge
        have hfield : (BitVec.ofNat 11 (e + 1075).toNat).toNat = (e + 1075).toNat :=
          Nat.mod_eq_of_lt (Nat.lt_of_succ_lt hsmall)
        have hfirst : BitVec.ofNat 11 (e + 1075).toNat ≠ 0#11 := by
          intro hzero
          rw [hzero, BitVec.toNat_ofNat] at hfield
          omega
        have hlast : BitVec.ofNat 11 (e + 1075).toNat ≠ -1#11 := by
          intro hmax
          rw [hmax] at hfield
          have hvalue : (-1#11).toNat = 2047 := rfl
          omega
        have hexponent : ((BitVec.ofNat 11 (e + 1075).toNat).toNat : Int) - 1075 = e := by
          omega
        simp only [hlarge, if_false, if_true]
        right
        have hnormal := normal_unpack (b := packComponents .binary64 .positive
          (BitVec.ofNat 11 (e + 1075).toNat) (BitVec.ofNat 52 m))
        rw [unpackSign_packComponents, ofBitVec_toBitVec, unpackExponent_packComponents, hexponent]
          at hnormal
        exact hnormal rfl hfirst hlast

/-! ## Shares above the tolerance -/

/-- What is more than the tolerance is infinite or a normal number. -/
theorem infinity_or_normal {p : Float} (h : flowTolerance < p) :
    p.toModel.unpack = .infinity .positive ∨ ∃ e, Normal e p.toModel.unpack := by
  have htolerance : ∃ m e hm,
      flowTolerance.toModel.unpack = .finite .positive m e hm ∧ -1074 < e :=
    ⟨_, _, _, rfl, by decide⟩
  rcases htolerance with ⟨m, e, hm, htolerance, he⟩
  have hlt : flowTolerance.toModel.unpack.lt p.toModel.unpack = true := of_decide_eq_true h
  have hcompare : UnpackedFloat.compare (.finite .positive m e hm) p.toModel.unpack = some .lt := by
    rw [← htolerance]
    simpa [UnpackedFloat.lt] using hlt
  cases hp : p.toModel.unpack with
  | notANumber => simp [hp, UnpackedFloat.compare] at hcompare
  | zero s => simp [hp, UnpackedFloat.compare] at hcompare
  | infinity s =>
      cases s with
      | positive => exact .inl rfl
      | negative => simp [hp, UnpackedFloat.compare] at hcompare
  | finite s m' e' hm' =>
      cases s with
      | negative => simp [hp, UnpackedFloat.compare] at hcompare
      | positive =>
          simp only [hp, UnpackedFloat.compare, Option.some.injEq, Ordering.then_eq_lt,
            Int.compare_eq_lt, Int.compare_eq_eq] at hcompare
          refine .inr ⟨e', ?_⟩
          rw [← hp]
          exact normal_of_unpack hp (by omega)

end Rounding

open Rounding in
/-- Of a share above the tolerance and twice the share the share is the smaller number. -/
theorem leastNumber_add_self {p : Float} (h : flowTolerance < p) : leastNumber (p + p) p = p := by
  rcases infinity_or_normal h with hinfinite | ⟨e, hnormal⟩
  · have hp : p = .ofModel (.pack (.infinity .positive)) :=
      congrArg Float.ofModel (eq_pack_infinity hinfinite)
    have hsum : p + p = p := by
      rw [hp]
      rfl
    rw [hsum]
    simp [leastNumber]
  · have hlarger : (p + p).toModel.unpack.le p.toModel.unpack = false := by
      rcases hnormal.add_self.unpack_pack with hinfinite | hnext
      · exact (congrArg (·.le p.toModel.unpack) hinfinite).trans hnormal.infinity_not_le
      · exact hnormal.not_le hnext
    have hle : ¬ p + p ≤ p := by
      intro hle
      have hle' : (p + p).toModel.unpack.le p.toModel.unpack = true := of_decide_eq_true hle
      rw [hlarger] at hle'
      cases hle'
    have hnumber : p.isNaN = false := hnormal.isNaN_eq_false
    rw [leastNumber, if_neg hle, hnumber, if_neg Bool.false_ne_true, ite_self]

/-! ## Full buckets -/

namespace FlowBucket

/-- The bucket is the same after the start of a step, and a vehicle may leave. -/
structure Steady {α : Type} [FlowNumber α] (b : FlowBucket α) : Prop where
  refill : b.refill = b
  isOpen : b.isOpen = true

/-- A full bucket with a share above the tolerance stays full. -/
theorem steady_full {p : Float} (h : flowTolerance < p) : (full p).Steady := by
  constructor
  · exact congrArg (FlowBucket.mk p) (leastNumber_add_self h)
  · exact decide_eq_true h

end FlowBucket

end TrafficQueue
