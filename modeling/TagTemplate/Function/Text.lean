import TagTemplate.Function.Basic
import TagTemplate.Markup.Reference
import TagTemplate.Number.Fixed
import TagTemplate.Number.Rounding
import TagTemplate.Text.CaseMap

/-!
# Text and numbers

Functions that measure, cut and change text, and that round and print numbers.
-/

namespace TagTemplate.Function

/-- The integer an argument stands for, its fraction cut, within the signed 64-bit range. -/
def integer (call : Call) (argument : Value) : Except Error Int :=
  (call.number argument).map Number.toInt64

/-- The number of elements, or of characters in text. -/
def count : Function := fun call arguments =>
  (call.one arguments).map fun v => .number (Float.ofNat v.length)

/-- The texts of all values, one after the other. -/
def concat : Function := fun _ arguments => .ok (.string (String.join (arguments.map Value.output)))

/-- A function that changes text. -/
def changing (change : List Char → List Char) : Function := fun call arguments =>
  (call.text arguments).map fun s => .string (String.ofList (change s.toList))

/-- Text in upper case. -/
def upper : Function := changing Text.upper

/-- Text in lower case. -/
def lower : Function := changing Text.lower

/-- Text without white space at its ends. -/
def trim : Function := changing Text.trim

/-- Text with markup characters as entities. -/
def htmlentities : Function := changing Markup.escape

/-- Where a window begins in text of `total` characters: a negative start counts from the end. -/
def windowStart (total start : Int) : Int :=
  if start < 0 then max (total + start) 0 else min start total

/-- Where a window ends: without a length at the end of the text, and a negative length leaves that
many characters out. The sum of start and length must fit in 64 bits. -/
def windowEnd (total start : Int) : Option Int → Except Error Int
  | none => .ok total
  | some length =>
    if length < 0 then .ok (max (total + length) start)
    else if start + length < Nat.pow 2 63 then .ok (min (start + length) total)
    else .error (.fault .windowOverflow)

/-- A window of text, given by its start and maybe a length. -/
def substr : Function := fun call arguments => do
  call.expect arguments 2 (some 3)
  let text := (arguments.getD 0 .null).output.toList
  let total : Int := text.length
  let first := windowStart total (← integer call (arguments.getD 1 .null))
  let length ← match arguments[2]? with
    | none => .ok none
    | some length => (integer call length).map some
  let last ← windowEnd total first length
  .ok (.string (String.ofList ((text.take last.toNat).drop first.toNat)))

/-- A number rounded to a count of decimals, none by default. -/
def round : Function := fun call arguments => do
  call.expect arguments 1 (some 2)
  let x ← call.number (arguments.getD 0 .null)
  let decimals ← match arguments[1]? with
    | none => .ok 0
    | some decimals => integer call decimals
  .ok (.number (Number.roundTo decimals x))

/-- The most decimals a number can be printed with. -/
def mostDecimals : Nat := 65535

/-- A number printed with a count of decimals, a decimal point and a thousands separator. -/
def formatNumber : Function := fun call arguments => do
  call.expect arguments 1 (some 4)
  let x ← call.number (arguments.getD 0 .null)
  let decimals ← match arguments[1]? with
    | none => .ok 0
    | some decimals => (integer call decimals).map Int.toNat
  let point := (arguments[2]?.map Value.output).getD "."
  let separator := (arguments[3]?.map Value.output).getD ","
  if mostDecimals < decimals then .error (.fault .tooManyDecimals)
  else .ok (.string (String.ofList (Number.formatted decimals point.toList separator.toList x)))

end TagTemplate.Function
