import TagTemplate.Number.Binary64

/-!
# Rounding and integer views

Numbers cut to 64-bit integers, powers of ten as floating-point products, and rounding to a count
of decimals.
-/

namespace TagTemplate.Number

/-- The integer part of the magnitude `mantissa * 2 ^ exponent`. -/
def wholePart (mantissa : Nat) (exponent : Int) : Nat :=
  mantissa * Nat.pow 2 exponent.toNat / Nat.pow 2 (-exponent).toNat

/-- The signed 64-bit integer nearest to an integer. -/
def clampInt64 (n : Int) : Int := max (-(Nat.pow 2 63)) (min n (Nat.pow 2 63 - 1))

/-- The integer part as a signed 64-bit integer: fractions are cut, values out of range go to the
nearer end and a number that is none gives zero. -/
def toInt64 (x : Float) : Int :=
  match shape x with
  | .nan => 0
  | .infinite negative => clampInt64 (if negative then -(Nat.pow 2 64) else Nat.pow 2 64)
  | .finite negative mantissa exponent =>
    clampInt64 (if negative then -(wholePart mantissa exponent) else wholePart mantissa exponent)

/-- The integer part as an unsigned 64-bit integer, with the ends of the range as for `toInt64`. -/
def toIndex (x : Float) : Nat := x.toUInt64.toNat

/-- Repeated squaring: `result * base ^ n`, with every product rounded. -/
def powerLoop (n : Nat) (base result : Float) : Float :=
  if n = 0 then result
  else powerLoop (n / 2) (base * base) (if n % 2 = 1 then result * base else result)

/-- Ten to an integer power; a negative power is the reciprocal of the positive one. -/
def powerOfTen (n : Int) : Float :=
  let power := powerLoop n.natAbs 10.0 1.0
  if n < 0 then 1.0 / power else power

/-- An integer wrapped to the signed 32-bit range. -/
def wrapInt32 (n : Int) : Int := n.bmod (Nat.pow 2 32)

/-- A number rounded to a count of decimals, halves away from zero. -/
def roundTo (decimals : Int) (x : Float) : Float :=
  let factor := powerOfTen (wrapInt32 decimals)
  (x * factor).round / factor

end TagTemplate.Number
