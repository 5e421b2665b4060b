/-!
# Decimal digits

Digits of natural numbers and positional decimal notation: `positional` writes
`value * 10 ^ exponent` with all its zeros and never an exponent.
-/

namespace TagTemplate.Number

/-- The decimal digits of a natural number, most significant first. -/
def digits (n : Nat) : List Char := Nat.toDigits 10 n

/-- Digits with zeros put in front until there are `width` of them. -/
def paddedDigits (width n : Nat) : List Char :=
  List.replicate (width - (digits n).length) '0' ++ digits n

/-- The digits of `n / 10 ^ places`, with `places` of them after the point; without places there
is no point. -/
def pointed (places n : Nat) : List Char :=
  if places = 0 then digits n
  else digits (n / Nat.pow 10 places) ++ '.' :: paddedDigits places (n % Nat.pow 10 places)

/-- The decimal `value * 10 ^ exponent` written out in full. -/
def positional (value : Nat) (exponent : Int) : List Char :=
  if 0 ≤ exponent then digits (value * Nat.pow 10 exponent.toNat)
  else pointed (-exponent).toNat value

/-- Drops zeros at the end of a decimal's digits as long as its exponent is below zero, at most
`fuel` of them. -/
def dropZeros : Nat → Nat → Int → Nat × Int
  | 0, value, exponent => (value, exponent)
  | fuel + 1, value, exponent =>
    if exponent < 0 ∧ value % 10 = 0 then dropZeros fuel (value / 10) (exponent + 1)
    else (value, exponent)

/-- The quotient `num / den` rounded to the nearest integer, a half going to the even one. -/
def roundHalfEven (num den : Nat) : Nat :=
  let q := num / den
  let r := num % den
  if 2 * r < den then q
  else if den < 2 * r then q + 1
  else if q % 2 = 0 then q else q + 1

end TagTemplate.Number
