import TagTemplate.Function.Island
import TagTemplate.Function.Logic
import TagTemplate.Function.Loop
import TagTemplate.Function.Text

/-!
# The native functions

The functions every template can call without any library added.
-/

namespace TagTemplate

/-- The native functions by name. -/
def nativeFunctions : List (String × Function) :=
  [("not", Function.not), ("eq", Function.eq), ("neq", Function.neq), ("lt", Function.lt),
   ("gt", Function.gt), ("le", Function.le), ("ge", Function.ge), ("and", Function.and),
   ("or", Function.or), ("if", Function.choose), ("default", Function.fallback),
   ("count", Function.count), ("empty", Function.empty), ("concat", Function.concat),
   ("upper", Function.upper), ("lower", Function.lower), ("trim", Function.trim),
   ("substr", Function.substr), ("htmlentities", Function.htmlentities),
   ("round", Function.round), ("format_number", Function.formatNumber),
   ("position", Function.position), ("first", Function.first), ("last", Function.last),
   ("even", Function.even), ("odd", Function.odd), ("key", Function.key),
   ("xml", Function.xml), ("xpath", Function.xpath)]

/-- The native function of a name. -/
def nativeLibrary : Library := fun name => nativeFunctions.lookup name

namespace Registry

/-- The function that answers to a name: one of the libraries, or a native one. -/
def resolve? (r : Registry) (name : String) : Option Function :=
  (r.find? name).or (nativeLibrary name)

/-- Calls the function of the call's name. -/
def call (r : Registry) (call : Call) (arguments : List Value) : Except Error Value :=
  match r.resolve? call.name with
  | some function => function call arguments
  | none => .error (.functionNotFound call.name)

end Registry

end TagTemplate
