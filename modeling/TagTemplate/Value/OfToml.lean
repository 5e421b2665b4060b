import TagTemplate.Toml.Basic
import TagTemplate.Value.OfJson

/-!
# Values of TOML documents

Tables become maps in the order of their names, dates become text. Numbers that are not finite
become null. There is no value for integers beyond 64 bits and numbers too large for binary64.
-/

namespace TagTemplate.Value

/-- The nearest number to an integer. -/
def ofInteger (n : Int) : Value :=
  let size := Float.ofScientific n.natAbs false 0
  .number (if n < 0 then -size else size)

/-- The value of the number that may be too large. -/
def ofFloat? (x : Option Float) : Option Value :=
  x.map fun x => if x.isNaN || x.isInf then .null else .number x

/-- The value of the date or time that a text says. -/
def ofDatetimeEntry? : Toml → Option Value
  | .string text => (Toml.Datetime.read? text.toList).map fun d => .string d.display
  | _ => none

mutual

/-- The value of a TOML value. -/
def ofToml? : Toml → Option Value
  | .string text => some (.string text)
  | .integer n => if -Nat.pow 2 63 ≤ n ∧ n < Nat.pow 2 63 then some (ofInteger n) else none
  | .float x => ofFloat? x
  | .bool b => some (.bool b)
  | .datetime d => some (.string d.display)
  | .array items => (ofTomls? items).map .list
  | .table entries =>
    match Toml.datetimeEntry? entries with
    | some entry => ofDatetimeEntry? entry
    | none => (ofEntries? entries).map sortedMap

/-- The values of TOML values. -/
def ofTomls? : List Toml → Option (List Value)
  | [] => some []
  | item :: items =>
    match ofToml? item, ofTomls? items with
    | some v, some vs => some (v :: vs)
    | _, _ => none

/-- The values of the entries of a table. -/
def ofEntries? : List (String × Toml) → Option (List (String × Value))
  | [] => some []
  | (name, item) :: entries =>
    match ofToml? item, ofEntries? entries with
    | some v, some vs => some ((name, v) :: vs)
    | _, _ => none

end

end TagTemplate.Value
