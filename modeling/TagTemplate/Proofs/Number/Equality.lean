import Mathlib
import TagTemplate.Number.Binary64
import TagTemplate.Value.Output

/-!
# Equal numbers

Two numbers compare equal when they are the same number or the two zeros; the number that is none
compares equal to nothing, not even to itself. The comparison with a tolerance is not that strict.

- `nearlyEqual_self`, `nearlyEqual_comm`: **the comparison with a tolerance is reflexive**, for the
  number that is none as well, **and symmetric**;
- `not_lt_of_beq`: of two numbers that compare equal none is the smaller one;
- `numberText_congr`: numbers that compare equal are written alike.
-/

namespace TagTemplate.Number

variable {x y : Float}

theorem nearlyEqual_self (x : Float) : nearlyEqual x x = true := by
  simp [nearlyEqual_iff]

theorem nearlyEqual_comm (x y : Float) : nearlyEqual x y = nearlyEqual y x := by
  have hdistance : ((orderKey x : Int) - orderKey y).natAbs =
      ((orderKey y : Int) - orderKey x).natAbs := by
    omega
  rw [nearlyEqual, nearlyEqual, BEq.comm, hdistance]

theorem not_lt_of_beq (h : (x == y) = true) : ¬ x < y := by
  intro hlt
  have heq : x.toModel.unpack.compare y.toModel.unpack = some .eq := eq_of_beq h
  have hless : x.toModel.unpack.compare y.toModel.unpack = some .lt :=
    eq_of_beq (of_decide_eq_true hlt)
  rw [heq] at hless
  cases hless

/-- There is only one number that is none. -/
theorem eq_of_isNaN (hx : x.isNaN = true) (hy : y.isNaN = true) : x = y := by
  rw [Float.isNaN_eq_decide_eq_nan, decide_eq_true_eq] at hx hy
  rw [hx, hy]

theorem beq_self_of_isNaN (h : x.isNaN = false) : (x == x) = true := by
  rw [Float.isNaN_eq_decide_eq_nan, decide_eq_false_iff_not] at h
  exact Float.beq_self_iff.2 h

/-- Numbers that compare equal are written alike, and so are two that are none. -/
theorem numberText_congr (h : (x == y) = true ∨ x.isNaN = true ∧ y.isNaN = true) :
    Value.numberText x = Value.numberText y := by
  rcases h with h | ⟨hx, hy⟩
  · -- the only numbers that compare equal without being the same are the two zeros
    obtain ⟨-, -, rfl | ⟨rfl, rfl⟩ | ⟨rfl, rfl⟩⟩ := Float.beq_iff_ne_nan_and_eq.1 h
    · rfl
    · decide
    · decide
  · rw [eq_of_isNaN hx hy]

end TagTemplate.Number
