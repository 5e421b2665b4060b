import TagTemplate.Toml.Datetime

/-!
# TOML documents

Numbers are kept whatever their size; what a document is read for says which of them it can take.
-/

namespace TagTemplate

/-- A value of a document. -/
inductive Toml where
  | string (text : String)
  | integer (n : Int)
  /-- A number with a point or an exponent; none if it is too large for binary64. -/
  | float (x : Option Float)
  | bool (b : Bool)
  | datetime (d : Toml.Datetime)
  | array (items : List Toml)
  | table (entries : List (String × Toml))
  deriving Inhabited

namespace Toml

mutual

/-- All numbers in a value can be taken: integers from `least` up to but not including `bound`, and
others that are not too large. -/
def numbersWithin (least bound : Int) : Toml → Bool
  | .integer n => least ≤ n && n < bound
  | .float x => x.isSome
  | .array items => allNumbersWithin least bound items
  | .table entries => entryNumbersWithin least bound entries
  | _ => true

/-- All numbers in the values can be taken. -/
def allNumbersWithin (least bound : Int) : List Toml → Bool
  | [] => true
  | item :: items => numbersWithin least bound item && allNumbersWithin least bound items

/-- All numbers in the values of entries can be taken. -/
def entryNumbersWithin (least bound : Int) : List (String × Toml) → Bool
  | [] => true
  | (_, item) :: entries => numbersWithin least bound item && entryNumbersWithin least bound entries

end

/-- The name of the entry that a date or time is when it is looked at as a table. -/
def datetimeName : String := "$__toml_private_datetime"

/-- The entry that makes a table a date or time: it must come first in the order of the names. -/
def datetimeEntry? (entries : List (String × Toml)) : Option Toml :=
  if entries.all fun entry => decide (datetimeName ≤ entry.1) then entries.lookup datetimeName
  else none

end Toml

end TagTemplate
