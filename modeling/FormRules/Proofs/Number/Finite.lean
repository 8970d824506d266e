import Mathlib

/-!
# Finite doubles

A double is packed from a sign, a mantissa and an exponent, and it is finite unless
the exponent has outgrown its field.  The whole numbers of a machine word are far
from that, and a change of sign leaves the exponent as it is.
-/

namespace FormRules.Number

open Float.Model (Format UnpackedFloat totalExponent)
open Float.Model.UnpackedFloat

/-- What is packed without going to infinity: the two zeros, and a mantissa whose
exponent has a place in the exponent field. -/
def Fits : UnpackedFloat → Prop
  | .zero _ => True
  | .finite _ _ exponent _ => exponent ≤ 971
  | .infinity _ | .notANumber => False

section

variable {u : UnpackedFloat}

/-- The exponent field alone tells the finite doubles. -/
theorem isFinite_unpack {b : BitVec Format.binary64.numBits} (h : unpackExponent b ≠ -1#_) :
    (unpack Format.binary64 b).isFinite = true := by
  unfold unpack
  rw [if_neg h]
  split
  · split <;> rfl
  · rfl

theorem Fits.isFinite_unpack_pack (h : Fits u) :
    (unpack Format.binary64 (pack Format.binary64 u)).isFinite = true := by
  apply isFinite_unpack
  cases u with
  | infinity s => exact h.elim
  | notANumber => exact h.elim
  | zero s =>
      simp only [pack, packedZero, unpackExponent_packComponents]
      decide
  | finite s m e hm =>
      have hexponent : e ≤ 971 := h
      have hbelow : (e + 1023 + 52).toNat + 1 < 2048 := by omega
      have hfield : ¬ 2 ^ Format.binary64.exponentBits ≤
          (e + Format.binary64.exponentBias + Format.binary64.mantissaBitsWithoutImplicit).toNat
            + 1 := Nat.not_le.2 hbelow
      simp only [pack, if_neg hfield]
      split
      · rw [unpackExponent_packComponents]
        -- the field holds `e + 1075`, which is below the mark of the infinities
        intro hmark
        have hvalue : (e + 1023 + 52).toNat % 2048 = 2047 := congrArg BitVec.toNat hmark
        omega
      · rw [unpackExponent_packComponents]
        decide

theorem Fits.neg (h : Fits u) : Fits u.neg := by
  cases u with
  | infinity s => exact h.elim
  | notANumber => exact h.elim
  | zero s => trivial
  | finite s m e hm => exact h

/-- What is read back from the fields of a finite double fits them. -/
theorem fits_unpack {b : BitVec Format.binary64.numBits}
    (h : (unpack Format.binary64 b).isFinite = true) : Fits (unpack Format.binary64 b) := by
  unfold unpack at h ⊢
  have hfield : (unpackExponent b).toNat < 2048 := (unpackExponent b).isLt
  by_cases hmark : unpackExponent b = -1#_
  · rw [if_pos hmark] at h
    split at h <;> cases h
  · have hunmarked : (unpackExponent b).toNat ≠ 2047 := fun heq =>
      hmark (BitVec.eq_of_toNat_eq heq)
    rw [if_neg hmark]
    by_cases hlow : unpackExponent b = 0#_
    · have hzero : (unpackExponent b).toNat = 0 := congrArg BitVec.toNat hlow
      rw [if_pos hlow]
      split
      · trivial
      · show ((unpackExponent b).toNat : Int) - (1023 + 52) + 1 ≤ 971
        rw [hzero]
        decide
    · rw [if_neg hlow]
      show ((unpackExponent b).toNat : Int) - (1023 + 52) ≤ 971
      omega

end

section

/-- Shifting to the right makes no mantissa larger. -/
theorem mantissa_shiftRight_le (m : ExtendedMantissa) (k : Nat) :
    (m >>> k).mantissa ≤ m.mantissa := by
  induction k with
  | zero => exact Nat.le_refl _
  | succ k ih =>
      have hhalf : (m >>> (k + 1)).mantissa = (m >>> k).mantissa / 2 := rfl
      omega

theorem roundedMantissa_le (m : ExtendedMantissa) : m.roundedMantissa ≤ m.mantissa + 1 := by
  unfold ExtendedMantissa.roundedMantissa Accuracy.roundToNearestEven
  split <;> omega

/-- The exponent that a number is rounded to, in figures. -/
theorem targetExponent_eq (m : Nat) (e : Int) :
    Format.binary64.targetExponent (totalExponent m e) = max (m.log2 + 1 + e - 53) (-1074) :=
  rfl

/-- Shifting raises an exponent to its target, and never lowers it. -/
theorem snd_shiftToTargetExponent (m : Nat) (e : Int) (a : Accuracy) :
    (shiftToTargetExponent Format.binary64 m e a).2 =
      max e (max (m.log2 + 1 + e - 53) (-1074)) := by
  simp only [shiftToTargetExponent, shiftToExponent, targetExponent_eq]
  omega

theorem mantissa_shiftToTargetExponent_le (m : Nat) (e : Int) :
    (shiftToTargetExponent Format.binary64 m e .exact).1.mantissa ≤ m :=
  mantissa_shiftRight_le _ _

variable {m k : Nat} {e : Int}

theorem log2_lt_of_lt (hm : m < 2 ^ k) (hk : 0 < k) : m.log2 < k := by
  rcases Nat.eq_zero_or_pos m with rfl | hpos
  · exact hk
  · exact (Nat.log2_lt (by omega)).2 hm

/-- Rounding a number of moderate size does not take its exponent out of the field. -/
theorem fits_roundWithAccuracy {s : Sign} (hm : m < 2 ^ 127) (he : e ≤ 64) :
    Fits (roundWithAccuracy Format.binary64 s m e .exact) := by
  have hmantissa := mantissa_shiftToTargetExponent_le m e
  have hraised := snd_shiftToTargetExponent m e .exact
  unfold roundWithAccuracy
  generalize shiftToTargetExponent Format.binary64 m e .exact = first at hmantissa hraised
  obtain ⟨extended, exponent⟩ := first
  have hrounded := roundedMantissa_le extended
  have hagain := snd_shiftToTargetExponent extended.roundedMantissa exponent .exact
  simp only at hmantissa hraised ⊢
  split
  · trivial
  · have hlog : m.log2 < 127 := log2_lt_of_lt hm (by decide)
    have hlogRounded : extended.roundedMantissa.log2 < 128 :=
      log2_lt_of_lt (by omega) (by decide)
    show (shiftToTargetExponent Format.binary64 extended.roundedMantissa exponent .exact).2 ≤ 971
    omega

theorem fits_ofNat {n : Nat} (h : n < 2 ^ 64) : Fits (ofNat Format.binary64 n) := by
  unfold ofNat ofInt UnpackedFloat.normalize
  split
  case h_1 hneg => exact absurd (Int.compare_eq_lt.1 hneg) (by omega)
  case h_2 => trivial
  case h_3 hpos =>
    have hpositive : 0 < n := by
      have := Int.compare_eq_gt.1 hpos
      omega
    -- one bit at least stands before the point, so at most 52 zeros are filled in
    have hfill :
        (0 - Format.binary64.targetExponent (totalExponent (n : Int).toNat 0)).toNat ≤ 52 := by
      rw [targetExponent_eq]
      omega
    unfold UnpackedFloat.round decreaseExponent
    apply fits_roundWithAccuracy
    · rw [Nat.shiftLeft_eq]
      have := Nat.pow_le_pow_right (n := 2) (by decide) hfill
      calc _ ≤ n * 2 ^ 52 := Nat.mul_le_mul_left _ this
        _ < 2 ^ 127 := by omega
    · omega

end

/-- Doubles that are not finite are infinite or no number. -/
theorem isFinite_eq_false_iff {x : Float} :
    x.isFinite = false ↔ x.isNaN = true ∨ x.isInf = true := by
  unfold Float.isFinite Float.isNaN Float.isInf
  unfold Float.Model.isFinite Float.Model.isNaN Float.Model.isInf
  cases x.toModel.unpack <;> simp [isFinite, isNaN, isInf]

/-- The nearest double to a whole number of a machine word is finite. -/
theorem isFinite_toFloat (n : UInt64) : n.toFloat.isFinite = true :=
  (fits_ofNat n.toNat_lt).isFinite_unpack_pack

/-- A change of sign keeps a double finite. -/
theorem isFinite_neg {x : Float} (h : x.isFinite = true) : (-x).isFinite = true :=
  (fits_unpack h).neg.isFinite_unpack_pack

end FormRules.Number
