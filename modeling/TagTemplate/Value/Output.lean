import TagTemplate.Number.Shortest
import TagTemplate.Value.Basic

/-!
# The text of values

`output` is the text a value contributes to a rendered page: null writes nothing, collections
write their values separated by commas. `display` is the same except that it names null.
-/

namespace TagTemplate.Value

/-- The text of a number: as short as it can be, and zero without a sign. -/
def numberText (x : Float) : String := if x == 0.0 then "0" else Number.display x

mutual

/-- The text a value is written as into the output. -/
def output : Value → String
  | null => ""
  | bool b => if b then "true" else "false"
  | number x => numberText x
  | string s => s
  | list items => ",".intercalate (outputs items)
  | map entries => ",".intercalate (entryOutputs entries)
  | host _ text _ _ _ => text
  | document _ d => d.inspect

/-- The texts of a list's items. -/
def outputs : List Value → List String
  | [] => []
  | v :: vs => v.output :: outputs vs

/-- The texts of a map's values. -/
def entryOutputs : OrderedMap Value → List String
  | ⟨entries⟩ => pairOutputs entries

/-- The texts of the values in a list of entries. -/
def pairOutputs : List (String × Value) → List String
  | [] => []
  | (_, v) :: es => v.output :: pairOutputs es

end

/-- The text a value is shown as in messages. -/
def display : Value → String
  | null => "null"
  | v => v.output

/-- Text that does not read as a number. -/
def isText (v : Value) : Bool := v.asString?.isSome && v.asNumber?.isNone

end TagTemplate.Value
