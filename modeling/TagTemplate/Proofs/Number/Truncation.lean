import Mathlib
import TagTemplate.Number.Rounding
import TagTemplate.Proofs.Number.Binary64

/-!
# Numbers cut to integers

The standard library cuts a number by shifting its mantissa until the exponent is zero. What is left
is the whole part of its magnitude, as long as that fits a word.

- `wholePart_eq_floor`: the quotient of a mantissa by a power of two is the floor of its magnitude;
- `toIndex_eq_floor`: **a number not below zero is cut to the floor of its magnitude**, and to the
  largest word if that is larger;
- `magnitude_lt_of_not_lt`: a number that does not exceed a bound has no more places than that.
-/

namespace TagTemplate.Number

open Float.Model (Format UnpackedFloat)
open Float.Model.UnpackedFloat

variable {x : Float} {mantissa : ℕ} {exponent : ℤ}

/-! ## Shifts -/

theorem mantissa_shiftRight (m : ExtendedMantissa) (n : ℕ) :
    (m >>> n).mantissa = m.mantissa / 2 ^ n := by
  induction n with
  | zero => exact (Nat.div_one _).symm
  | succ n ih =>
    show (m >>> n).mantissa / 2 = _
    rw [ih, Nat.div_div_eq_div_mul, Nat.pow_succ]

/-- Shifted to the exponent zero a mantissa is the whole part. -/
theorem roundToInt_positive (mantissa : ℕ) (exponent : ℤ) :
    roundToInt .positive mantissa exponent = wholePart mantissa exponent := by
  have hleft : (exponent - 0).toNat = exponent.toNat := by rw [Int.sub_zero]
  have hright : (0 - (exponent - exponent.toNat)).toNat = (-exponent).toNat := by omega
  unfold roundToInt decreaseExponent shiftToExponent
  dsimp only
  rw [hleft, hright, mantissa_shiftRight, Nat.shiftLeft_eq]
  rfl

theorem wholePart_eq_floor (mantissa : ℕ) (exponent : ℤ) :
    wholePart mantissa exponent = ⌊(mantissa * 2 ^ exponent : ℚ)⌋₊ := by
  have hpower : (2 : ℚ) ^ exponent = 2 ^ exponent.toNat / 2 ^ (-exponent).toNat := by
    rw [← zpow_natCast, ← zpow_natCast, ← zpow_sub₀ two_ne_zero]
    congr 1
    omega
  have hquotient : (mantissa * 2 ^ exponent : ℚ) =
      (mantissa * 2 ^ exponent.toNat : ℕ) / (2 ^ (-exponent).toNat : ℕ) := by
    rw [hpower, ← mul_div_assoc]
    push_cast
    rfl
  rw [hquotient, Nat.floor_div_eq_div]
  rfl

/-! ## Words -/

theorem toNat_ofNatClamp (n : ℕ) : (UInt64.ofNatClamp n).toNat = min n (2 ^ 64 - 1) := by
  unfold UInt64.ofNatClamp
  split
  · rename_i h
    exact (Nat.min_eq_left (Nat.le_pred_of_lt h)).symm
  · rename_i h
    exact (Nat.min_eq_right (Nat.le_of_lt (Nat.lt_of_lt_of_le (by decide) (Nat.not_lt.1 h)))).symm

/-- **A finite number that is not below zero is cut to the floor of its magnitude**, as far as that
fits a word. -/
theorem toIndex_eq_floor (hfinite : x.isFinite = true) (hsign : ¬ x < 0) :
    toIndex x = min ⌊magnitude x⌋₊ (2 ^ 64 - 1) := by
  have hword : toIndex x =
      (UInt64.ofNatClamp (x.toModel.unpack.toInt 0 (UInt64.size - 1)).toNat).toNat := rfl
  replace hfinite : x.toModel.unpack.isFinite = true := hfinite
  rw [lt_zero_iff] at hsign
  rw [hword, toNat_ofNatClamp]
  unfold magnitude
  generalize x.toModel.unpack = unpacked at *
  cases unpacked with
  | notANumber => cases hfinite
  | infinity sign => cases hfinite
  | zero sign => simp [UnpackedFloat.toInt]
  | finite sign mantissa exponent hpos =>
    cases sign with
    | negative => exact absurd rfl hsign
    | positive =>
      rw [UnpackedFloat.toInt, roundToInt_positive, Int.toNat_natCast, wholePart_eq_floor]

/-! ## Bounds -/

theorem isFinite_iff : x.isFinite = true ↔ (x.isNaN || x.isInf) = false := by
  have hmodel : x.toModel.unpack.isFinite = true ↔
      (x.toModel.unpack.isNaN || x.toModel.unpack.isInf) = false := by
    cases x.toModel.unpack <;>
      simp [UnpackedFloat.isFinite, UnpackedFloat.isNaN, UnpackedFloat.isInf]
  exact hmodel

theorem not_lt_zero_of_one_le (h : 1.0 ≤ x) : ¬ x < 0 := by
  have hone : (1.0 : Float).toModel.unpack = .finite .positive (2 ^ 52) (-52) (by decide) := rfl
  have hle : (1.0 : Float).toModel.unpack.le x.toModel.unpack = true := of_decide_eq_true h
  rw [hone] at hle
  rw [lt_zero_iff]
  intro hless
  generalize x.toModel.unpack = unpacked at *
  cases unpacked with
  | notANumber => cases hless
  | zero sign => cases hless
  | infinity sign =>
    cases sign with
    | positive => cases hless
    | negative => exact Bool.false_ne_true hle
  | finite sign m e hm =>
    cases sign with
    | positive => cases hless
    | negative => exact Bool.false_ne_true hle

theorem mantissa_lt {negative : Bool} (h : shape x = .finite negative mantissa exponent) :
    mantissa < 2 ^ 53 := by
  have hfraction : x.toBits.toNat % 2 ^ 52 < 2 ^ 52 := Nat.mod_lt _ (by decide)
  unfold shape at h
  dsimp only at h
  split_ifs at h <;> cases h
  · exact hfraction.trans (by decide)
  · show 2 ^ 52 + x.toBits.toNat % 2 ^ 52 < 2 ^ 53
    omega

/-- The order of two positive numbers is that of their exponents in the first place. -/
theorem magnitude_lt_of_not_lt {bound : Float} {hpos : 0 < mantissa}
    (hbound : bound.toModel.unpack = .finite .positive mantissa exponent hpos)
    (hfinite : x.isFinite = true) (hsign : ¬ x < 0) (h : ¬ bound < x) :
    magnitude x < 2 ^ (53 + exponent) := by
  have hpower : (0 : ℚ) < 2 ^ (53 + exponent) := zpow_pos two_pos _
  have hless : bound.toModel.unpack.compare x.toModel.unpack ≠ some .lt := fun heq =>
    h (decide_eq_true_iff.2 (beq_iff_eq.2 heq))
  have hmantissa : ∀ negative m e, shape x = .finite negative m e → m < 2 ^ 53 := fun _ _ _ =>
    mantissa_lt
  replace hfinite : x.toModel.unpack.isFinite = true := hfinite
  rw [lt_zero_iff] at hsign
  rw [hbound] at hless
  rw [shape_eq_ofUnpacked] at hmantissa
  unfold magnitude
  generalize x.toModel.unpack = unpacked at *
  cases unpacked with
  | notANumber => cases hfinite
  | infinity sign => cases hfinite
  | zero sign => exact hpower
  | finite sign m e hm =>
    cases sign with
    | negative => exact absurd rfl hsign
    | positive =>
      have hexponent : e ≤ exponent := by
        by_contra! hlt
        refine hless (congrArg some ?_)
        rw [compare_lt_iff_lt.2 hlt]
        rfl
      have hm : (m : ℚ) < 2 ^ 53 := by exact_mod_cast hmantissa _ m e rfl
      calc (m * 2 ^ e : ℚ) < 2 ^ 53 * 2 ^ e := by gcongr
        _ = 2 ^ (53 + e) := by rw [zpow_add₀ two_ne_zero]; rfl
        _ ≤ 2 ^ (53 + exponent) := zpow_le_zpow_right₀ one_le_two (by omega)

end TagTemplate.Number
