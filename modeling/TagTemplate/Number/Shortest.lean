import TagTemplate.Number.Binary64
import TagTemplate.Number.Digits

/-!
# The shortest decimal of a number

`display` writes a number with the fewest digits that read back to it, in positional notation.
For one digit, then two, and so on, the two neighbours of the number on the grid of decimals of
that length are tried; the first grid with a hit wins. Of two hits the nearer one is taken, and
of two equally near ones the larger.
-/

namespace TagTemplate.Number

/-- A positive number with the reals that round to it, all over one denominator. -/
structure Span where
  value : Nat
  low : Nat
  high : Nat
  scale : Nat
  /-- The ends of the span round to the number too. -/
  closed : Bool

/-- The span of `mantissa * 2 ^ exponent`. Below a power of two the neighbour is half as far. -/
def Span.ofMantissa (mantissa : Nat) (exponent : Int) : Span :=
  let below := if mantissa = Nat.pow 2 52 ∧ -1074 < exponent then 1 else 2
  let up := Nat.pow 2 (exponent - 2).toNat
  { value := 4 * mantissa * up
    low := (4 * mantissa - below) * up
    high := (4 * mantissa + 2) * up
    scale := Nat.pow 2 (2 - exponent).toNat
    closed := mantissa % 2 = 0 }

/-- The exponent `e` with `10 ^ e ≤ value < 10 ^ (e + 1)`. -/
def Span.magnitude (s : Span) : Int :=
  if s.scale ≤ s.value then (digits (s.value / s.scale)).length - 1
  else
    let guess := (digits (s.scale / s.value)).length - 1
    if s.scale ≤ s.value * Nat.pow 10 guess then -(guess : Int) else -(guess + 1 : Int)

/-- The multiple of `10 ^ exponent` that lies in the span and is nearest to its number, if one of
the number's two neighbours on that grid lies in the span. -/
def Span.onGrid? (s : Span) (exponent : Int) : Option Nat :=
  let up := Nat.pow 10 (-exponent).toNat
  let step := Nat.pow 10 exponent.toNat * s.scale
  let count := s.value * up / step
  let below := count * step
  let above := (count + 1) * step
  let inside (smaller larger : Nat) : Bool :=
    if s.closed then smaller ≤ larger else smaller < larger
  let takesBelow := inside (s.low * up) below
  let takesAbove := inside above (s.high * up)
  if takesAbove && (!takesBelow || above - s.value * up ≤ s.value * up - below) then
    some (count + 1)
  else if takesBelow then some count
  else none

/-- The shortest decimal `value * 10 ^ exponent` in the span; seventeen digits always suffice. -/
def Span.shortest (s : Span) : Nat × Int :=
  let top := s.magnitude
  let found := (List.range 17).findSome? fun (extra : Nat) =>
    (s.onGrid? (top - extra)).map fun count => (count, top - extra)
  let decimal := found.getD (s.value, 0)
  dropZeros 17 decimal.1 decimal.2

/-- The text of a number: positional, without a point for integers, `-0`, `NaN` and `inf`. -/
def display (x : Float) : String :=
  let sign (negative : Bool) (text : List Char) :=
    String.ofList (if negative then '-' :: text else text)
  match shape x with
  | .nan => "NaN"
  | .infinite negative => sign negative ['i', 'n', 'f']
  | .finite negative 0 _ => sign negative ['0']
  | .finite negative mantissa exponent =>
    let decimal := (Span.ofMantissa mantissa exponent).shortest
    sign negative (positional decimal.1 decimal.2)

end TagTemplate.Number
