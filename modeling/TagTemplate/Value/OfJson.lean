import TagTemplate.Json.Number
import TagTemplate.Value.Basic

/-!
# Values of JSON documents

Objects become maps in the order of their names. There is no value for a document with a number out
of range or a string that is no text.
-/

namespace TagTemplate.Value

/-- The map of named values in the order of the names; a repeated name keeps its last value. -/
def sortedMap (entries : List (String × Value)) : Value := .map (OrderedMap.ofList entries).sorted

mutual

/-- The value of a document. -/
def ofJson? : Json → Option Value
  | .null => some .null
  | .bool b => some (.bool b)
  | .number numeral => numeral.toFloat?.map .number
  | .string text => text.map .string
  | .array items => (ofItems? items).map .list
  | .object members => (ofMembers? members).map sortedMap

/-- The values of documents. -/
def ofItems? : List Json → Option (List Value)
  | [] => some []
  | item :: items =>
    match ofJson? item, ofItems? items with
    | some v, some vs => some (v :: vs)
    | _, _ => none

/-- The values of members. -/
def ofMembers? : List (Option String × Json) → Option (List (String × Value))
  | [] => some []
  | (name, value) :: members =>
    match name, ofJson? value, ofMembers? members with
    | some name, some v, some vs => some ((name, v) :: vs)
    | _, _, _ => none

end

end TagTemplate.Value
