import Mathlib
import TagTemplate.Number.Binary64

/-!
# The shape of a number

The standard library models a number by its bits, unpacks them into a sign, a mantissa and an
exponent, and compares what it has unpacked. `shape` takes the bits apart by arithmetic.

- `shape_eq_ofUnpacked`: **both read the same from the bits**;
- `magnitude`: the absolute value of a number;
- `exists_shape`: what the shape of a finite number says of its magnitude and of its sign.
-/

namespace TagTemplate.Number

open Float.Model (Format UnpackedFloat)
open Float.Model.UnpackedFloat

/-- The shape of an unpacked number. A zero has the exponent of the smallest numbers. -/
def Shape.ofUnpacked : UnpackedFloat → Shape
  | .notANumber => .nan
  | .infinity sign => .infinite (sign == .negative)
  | .zero sign => .finite (sign == .negative) 0 (-1074)
  | .finite sign mantissa exponent _ => .finite (sign == .negative) mantissa exponent

/-! ## The fields of the bits -/

section Fields

variable (bits : BitVec Format.binary64.numBits)

theorem toNat_unpackMantissa : (unpackMantissa bits).toNat = bits.toNat % Nat.pow 2 52 := by
  simp [unpackMantissa]

theorem toNat_unpackExponent :
    (unpackExponent bits).toNat = bits.toNat / Nat.pow 2 52 % Nat.pow 2 11 := by
  simp [unpackExponent, Nat.shiftRight_eq_div_pow]

theorem ofBitVec_unpackSign :
    (Sign.ofBitVec (unpackSign bits) == .negative) = (bits.toNat / Nat.pow 2 63 == 1) := by
  have hlt : bits.toNat < 2 ^ 64 := bits.isLt
  have hsign : (unpackSign bits).toNat = bits.toNat / Nat.pow 2 63 := by
    simp [unpackSign, Nat.shiftRight_eq_div_pow]
    omega
  rw [← hsign]
  generalize unpackSign bits = sign
  revert sign
  decide

/-- The bit in front that a number leaves out unless it is one of the smallest. -/
theorem toNat_leadingBit (mantissa : BitVec 52) :
    (1#1 ++ mantissa).toNat = Nat.pow 2 52 + mantissa.toNat := by
  have hor := Nat.two_pow_add_eq_or_of_lt mantissa.isLt 1
  rw [Nat.mul_one] at hor
  rw [BitVec.toNat_append, BitVec.toNat_ofNat, Nat.shiftLeft_eq]
  exact hor.symm

end Fields

/-- The shape of a number is what the model unpacks. -/
theorem shape_eq_ofUnpacked (x : Float) : shape x = .ofUnpacked x.toModel.unpack := by
  have hbits : x.toBits.toNat = x.toModel.toBits.toBitVec.toNat := rfl
  unfold shape Float.Model.unpack
  rw [hbits]
  generalize (x.toModel.toBits.toBitVec : BitVec Format.binary64.numBits) = bits
  dsimp only
  rw [← toNat_unpackExponent, ← toNat_unpackMantissa, ← ofBitVec_unpackSign]
  -- infinity, no number, zero, too small for a leading bit, and all others
  fun_cases unpack Format.binary64 bits with
  | case1 mantissa field _ _ hlast hnone =>
    exact (if_pos (congrArg BitVec.toNat hlast)).trans (if_pos (congrArg BitVec.toNat hnone))
  | case2 mantissa field hlast hsome =>
    exact (if_pos (congrArg BitVec.toNat hlast)).trans (if_neg (hsome <| BitVec.eq_of_toNat_eq ·))
  | case3 mantissa field _ _ hlast hfirst hnone =>
    refine (if_neg (hlast <| BitVec.eq_of_toNat_eq ·)).trans ?_
    refine (if_pos (congrArg BitVec.toNat hfirst)).trans ?_
    exact congrArg (Shape.finite _ · _) (congrArg BitVec.toNat hnone)
  | case4 mantissa field _ _ _ hlast hfirst hsome =>
    have hexponent : (field.toNat : ℤ) - 1075 + 1 = -1074 := by
      rw [hfirst]
      rfl
    refine (if_neg (hlast <| BitVec.eq_of_toNat_eq ·)).trans ?_
    refine (if_pos (congrArg BitVec.toNat hfirst)).trans ?_
    exact congrArg (Shape.finite _ _) hexponent.symm
  | case5 mantissa field _ _ _ hlast hfirst =>
    refine (if_neg (hlast <| BitVec.eq_of_toNat_eq ·)).trans ?_
    refine (if_neg (hfirst <| BitVec.eq_of_toNat_eq ·)).trans ?_
    exact congrArg (Shape.finite _ · _) (toNat_leadingBit mantissa).symm

/-! ## Magnitude and sign -/

/-- The absolute value of a finite number. -/
def magnitude (x : Float) : ℚ :=
  match x.toModel.unpack with
  | .finite _ mantissa exponent _ => mantissa * 2 ^ exponent
  | _ => 0

theorem lt_zero_iff (x : Float) : x < 0 ↔ x.toModel.unpack.compare (.zero .positive) = some .lt :=
  decide_eq_true_iff.trans beq_iff_eq

/-- A finite number has the sign of its shape, but the negative zero is not below zero. -/
theorem exists_shape {x : Float} (h : x.isFinite = true) :
    ∃ negative mantissa exponent, shape x = .finite negative mantissa exponent ∧
      magnitude x = mantissa * 2 ^ exponent ∧ (x < 0 ↔ negative = true ∧ mantissa ≠ 0) := by
  have hfinite : x.toModel.unpack.isFinite = true := h
  rw [shape_eq_ofUnpacked, lt_zero_iff]
  unfold magnitude
  generalize x.toModel.unpack = unpacked at *
  cases unpacked with
  | notANumber => cases hfinite
  | infinity sign => cases hfinite
  | zero sign =>
    refine ⟨_, _, _, rfl, by simp, ?_⟩
    cases sign <;> simp [UnpackedFloat.compare]
  | finite sign mantissa exponent hpos =>
    refine ⟨_, _, _, rfl, rfl, ?_⟩
    cases sign <;> simp [UnpackedFloat.compare, hpos.ne']

end TagTemplate.Number
