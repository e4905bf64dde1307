import TrafficQueue.Geometry.Point
import TrafficQueue.Proofs.Queue.Refill

/-!
# Magnitudes

A magnitude is a floating-point number that is not below zero, infinity among them.  Sums of
magnitudes are magnitudes, and so are products with a positive finite number, since
rounding and packing keep the sign and make no number undefined.

Main results:

- Definition `IsMagnitude`: numbers that are not below zero.
- Theorems `IsMagnitude.add` and `IsMagnitude.mul`: sums and products.
- Theorem `isMagnitude_toFloat`: whole numbers are magnitudes.
- Theorem `Point.isDefined_midpoint`: between points whose coordinates are magnitudes
  there is a midpoint.
-/

namespace TrafficQueue

namespace Rounding

open Float.Model (Format UnpackedFloat)
open Float.Model.UnpackedFloat

/-- Not below zero, with the sign of a positive number. -/
inductive Magnitude : UnpackedFloat → Prop where
  | zero : Magnitude (.zero .positive)
  | finite {m : Nat} {e : Int} (hm : 0 < m) : Magnitude (.finite .positive m e hm)
  | infinity : Magnitude (.infinity .positive)

variable {f g : UnpackedFloat}

/-- A magnitude is a number. -/
theorem Magnitude.isNaN_eq_false (hf : Magnitude f) : f.isNaN = false := by
  cases hf <;> rfl

/-! ## Rounding keeps the sign -/

/-- What is rounded with any accuracy to a number that is not negative is a magnitude. -/
theorem magnitude_roundWithAccuracy (m : Nat) (e : Int) (a : Accuracy) :
    Magnitude (roundWithAccuracy .binary64 .positive m e a) := by
  unfold roundWithAccuracy
  simp only []
  split
  · exact .zero
  · exact .finite _

/-- What is rounded to a number that is not negative is a magnitude. -/
theorem magnitude_round (m : Nat) (e : Int) :
    Magnitude (UnpackedFloat.round .binary64 .positive m e) :=
  magnitude_roundWithAccuracy _ _ _

/-- What is normalized from a mantissa that is not negative is a magnitude. -/
theorem magnitude_normalize {m : Int} (hm : 0 ≤ m) (e : Int) :
    Magnitude (UnpackedFloat.normalize .binary64 m e .positive) := by
  unfold UnpackedFloat.normalize
  split
  · rename_i hlt
    rw [Int.compare_eq_lt] at hlt
    omega
  · exact .zero
  · exact magnitude_round _ _

/-- The sum of magnitudes is a magnitude. -/
theorem Magnitude.add (hf : Magnitude f) (hg : Magnitude g) : Magnitude (f.add .binary64 g) := by
  cases hf with
  | zero =>
      cases hg with
      | zero => exact .zero
      | finite hm => exact .finite hm
      | infinity => exact .infinity
  | infinity => cases hg <;> exact .infinity
  | finite hm =>
      cases hg with
      | zero => exact .finite hm
      | infinity => exact .infinity
      | finite hm' =>
          exact magnitude_normalize (Int.add_nonneg (Int.natCast_nonneg _) (Int.natCast_nonneg _)) _

/-- A magnitude times a positive number is a magnitude. -/
theorem Magnitude.mul {m : Nat} {e : Int} {hm : 0 < m} (hf : Magnitude f)
    (hg : g = .finite .positive m e hm) : Magnitude (f.mul .binary64 g) := by
  subst hg
  cases hf with
  | zero => exact .zero
  | infinity => exact .infinity
  | finite _ => exact magnitude_roundWithAccuracy _ _ _

/-! ## Packing keeps the sign -/

/-- Parts whose exponent is not the last one are those of a finite number. -/
theorem magnitude_unpack_packComponents {exponent : BitVec Format.binary64.exponentBits}
    (hlast : exponent ≠ -1#_) (mantissa : BitVec Format.binary64.mantissaBitsWithoutImplicit) :
    Magnitude (unpack .binary64 (packComponents .binary64 .positive exponent mantissa)) := by
  simp only [unpack, unpackSign_packComponents, ofBitVec_toBitVec, unpackExponent_packComponents,
    hlast, if_false]
  split
  · split
    · exact .zero
    · exact .finite _
  · exact .finite _

/-- A magnitude stays one when it is packed and unpacked. -/
theorem Magnitude.unpack_pack (hf : Magnitude f) : Magnitude (Float.Model.pack f).unpack := by
  cases hf with
  | zero => exact .zero
  | infinity => exact .infinity
  | @finite m e hm =>
      unfold Float.Model.unpack Float.Model.pack
      simp only [pack]
      split
      · exact .infinity
      rename_i hsmall
      split
      · apply magnitude_unpack_packComponents
        intro hmax
        have hfield : _ = 2047 := congrArg BitVec.toNat hmax
        have hbits : 2 ^ Format.binary64.exponentBits = 2048 := rfl
        rw [BitVec.toNat_ofNat, hbits, Nat.mod_eq_of_lt (by omega)] at hfield
        omega
      · exact magnitude_unpack_packComponents (by decide) _

end Rounding

/-! ## Floating-point numbers -/

/-- The number is not below zero. -/
def IsMagnitude (x : Float) : Prop :=
  Rounding.Magnitude x.toModel.unpack

namespace IsMagnitude

variable {x y : Float}

/-- Magnitudes are numbers. -/
theorem isNaN_eq_false (hx : IsMagnitude x) : x.isNaN = false :=
  Rounding.Magnitude.isNaN_eq_false hx

/-- Magnitudes can be added. -/
theorem add (hx : IsMagnitude x) (hy : IsMagnitude y) : IsMagnitude (x + y) :=
  (Rounding.Magnitude.add hx hy).unpack_pack

/-- Products with a positive finite number. -/
theorem mul {m : Nat} {e : Int} {hm : 0 < m} (hx : IsMagnitude x)
    (hy : y.toModel.unpack = .finite .positive m e hm) : IsMagnitude (x * y) :=
  (Rounding.Magnitude.mul hx hy).unpack_pack

end IsMagnitude

/-- Small natural numbers are magnitudes. -/
theorem isMagnitude_toFloat {n : Nat} (h : n < 2 ^ 53) : IsMagnitude n.toFloat := by
  have heq : n.toFloat = n.toUInt64.toFloat * 1 := by
    have hfits : n < 2 ^ 53 ∧ 0 ≤ 22 := ⟨h, by decide⟩
    change Float.ofScientific n false 0 = _
    rw [Float.ofScientific, dif_pos hfits]
    rfl
  have hfactor : ∃ m e hm, (1 : Float).toModel.unpack = .finite .positive m e hm := ⟨_, _, _, rfl⟩
  rcases hfactor with ⟨m, e, hm, hfactor⟩
  rw [heq]
  apply IsMagnitude.mul _ hfactor
  exact (Rounding.magnitude_normalize (Int.natCast_nonneg _) 0).unpack_pack

/-- Between points whose coordinates are magnitudes there is a midpoint. -/
theorem Point.isDefined_midpoint {a b : Point} (hax : IsMagnitude a.x) (hay : IsMagnitude a.y)
    (hbx : IsMagnitude b.x) (hby : IsMagnitude b.y) : (a.midpoint b).isDefined = true := by
  have hhalf : ∃ m e hm, (0.5 : Float).toModel.unpack = .finite .positive m e hm := ⟨_, _, _, rfl⟩
  rcases hhalf with ⟨m, e, hm, hhalf⟩
  have hx := ((hax.add hbx).mul hhalf).isNaN_eq_false
  have hy := ((hay.add hby).mul hhalf).isNaN_eq_false
  simp only [isDefined, midpoint, hx, hy, Bool.not_false, Bool.and_self]

end TrafficQueue
