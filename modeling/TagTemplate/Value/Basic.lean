import TagTemplate.Island.Basic
import TagTemplate.Number.Read
import TagTemplate.Text.Blank
import TagTemplate.Text.CaseMap

/-!
# Values

What expressions evaluate to and what templates are given: plain data, and two kinds of objects
with an identity of their own. A host object answers to names through its own functions; an XML
document answers to `root` and `text`.
-/

namespace TagTemplate

/-- A value of the expression language. -/
inductive Value where
  | null
  | bool (b : Bool)
  | number (x : Float)
  | string (s : String)
  | list (items : List Value)
  | map (entries : OrderedMap Value)
  /-- An object of the host program: how it is written out, and how it answers to the name of a
  getter, to a plain name, and to a name nothing else answers to. -/
  | host (identity : Nat) (text : String) (accessor field dynamic : String → Option Value)
  | document (identity : Nat) (document : Island.Document)
  deriving Inhabited

namespace Value

/-- The getter's name for a member: `get` and the name with its first character in upper case. -/
def getterName (name : String) : String :=
  match name.toList with
  | [] => "get"
  | c :: cs => "get" ++ String.ofList (Text.charUpper c ++ cs)

/-- The value is null. -/
def isNull : Value → Bool
  | null => true
  | _ => false

/-- Null, false, zero and everything empty are false; all else is true. -/
def isTruthy : Value → Bool
  | null => false
  | bool b => b
  | number x => x != 0.0
  | string s => s ≠ ""
  | list items => !items.isEmpty
  | map entries => !entries.entries.isEmpty
  | host .. => true
  | document .. => true

/-- The value counts as empty exactly when it is not true. -/
def isEmpty (v : Value) : Bool := !v.isTruthy

/-- The number a value stands for: text stands for the numeral it holds between blanks. -/
def asNumber? : Value → Option Float
  | null => some 0.0
  | bool b => some (if b then 1.0 else 0.0)
  | number x => some x
  | string s => Number.read? (Text.trim s.toList)
  | _ => none

/-- The text of a value that is text. -/
def asString? : Value → Option String
  | string s => some s
  | _ => none

/-- The number of elements, or of characters in text; null has none and other values count as
one. -/
def length : Value → Nat
  | null => 0
  | string s => s.toList.length
  | list items => items.length
  | map entries => entries.size
  | _ => 1

/-- The member of an object under a name: its getter first, then its field, then what it makes
up. -/
def objectMember? (accessor field dynamic : String → Option Value) (name : String) : Option Value :=
  (accessor (getterName name)).or ((field name).or (dynamic name))

/-- The member of a document under a name. -/
def documentMember? (d : Island.Document) (name : String) : Option Value :=
  if name = "root" then some (string d.name)
  else if name = "text" then some (string d.textContent)
  else none

/-- The member of a value under a name: an entry of a map, an element of a list by its index, or a
member of an object. -/
def member? (v : Value) (name : String) : Option Value :=
  match v with
  | map entries => entries.get? name
  | list items => (Number.readIndex? name.toList).bind (items[·]?)
  | host _ _ accessor field dynamic => objectMember? accessor field dynamic name
  | document _ d => documentMember? d name
  | _ => none

/-- The member of a scope layer under a name: lists are not looked into. -/
def layerMember? (layer : Value) (name : String) : Option Value :=
  match layer with
  | map entries => entries.get? name
  | host _ _ accessor field dynamic => objectMember? accessor field dynamic name
  | document _ d => documentMember? d name
  | _ => none

end Value

end TagTemplate
