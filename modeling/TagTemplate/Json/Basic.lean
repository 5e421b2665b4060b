import TagTemplate.Number.Digits

/-!
# JSON documents

A document as it is written: numbers are kept as numerals, objects keep their members in order and
may repeat a name.
-/

namespace TagTemplate

/-- A signed exponent. -/
structure Exponent where
  negative : Bool
  digits : List Char
  deriving Repr, DecidableEq

/-- A number as it is written. Without a fraction there are no digits behind the point. -/
structure Numeral where
  negative : Bool
  whole : List Char
  fraction : List Char
  exponent : Option Exponent
  deriving Repr, DecidableEq

/-- A document. A string is none if it is no text: if one of its escapes is half of a surrogate
pair, or if its bytes are not UTF-8. -/
inductive Json where
  | null
  | bool (b : Bool)
  | number (numeral : Numeral)
  | string (text : Option String)
  | array (items : List Json)
  | object (members : List (Option String × Json))
  deriving Repr, Inhabited

/-- The numeral of an unsigned integer. -/
def Numeral.ofNat (n : Nat) : Numeral :=
  ⟨false, Number.digits n, [], none⟩

namespace Json

/-- A string with a text. -/
def text (s : String) : Json := .string (some s)

/-- An unsigned integer. -/
def ofNat (n : Nat) : Json := .number (.ofNat n)

/-- An object with plain names. -/
def record (members : List (String × Json)) : Json :=
  .object (members.map fun (name, value) => (some name, value))

/-- Null for nothing. -/
def optional {α : Type} (f : α → Json) : Option α → Json
  | none => .null
  | some a => f a

end Json

end TagTemplate
