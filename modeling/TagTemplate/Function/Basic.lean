import TagTemplate.Error
import TagTemplate.Scope
import TagTemplate.Value.Output

/-!
# Functions

A function gets the call it serves (its own name, the scope, the innermost iteration) and its
arguments. Libraries answer to names; a `Registry` asks the one added last first.
-/

namespace TagTemplate

/-- The circumstances of a call. -/
structure Call where
  name : String
  scope : Scope
  iteration : Option Iteration

/-- A function of the expression language. -/
abbrev Function := Call → List Value → Except Error Value

/-- Functions by name. -/
abbrev Library := String → Option Function

/-- The libraries added to the engine, the latest first. -/
structure Registry where
  libraries : List Library
  deriving Inhabited

namespace Registry

/-- The registry without added libraries. -/
def empty : Registry := ⟨[]⟩

/-- Adds a library; its functions hide those of the same name added before. -/
def add (r : Registry) (library : Library) : Registry := ⟨library :: r.libraries⟩

/-- The function that the libraries give for a name. -/
def find? (r : Registry) (name : String) : Option Function := r.libraries.findSome? (· name)

end Registry

namespace Call

/-- The error of a call that cannot be served. -/
def error (call : Call) (message : String) : Error := .functionCall call.name message

/-- Stops the call. -/
def fail {α : Type} (call : Call) (message : String) : Except Error α := .error (call.error message)

/-- Checks the number of arguments; without `most` there may be any number above `least`. -/
def expect (call : Call) (arguments : List Value) (least : Nat) (most : Option Nat) :
    Except Error Unit :=
  let count := arguments.length
  let fits := least ≤ count ∧ (most.all fun m => count ≤ m)
  if fits then .ok ()
  else
    let expected := match most with
      | none => s!"at least {least}"
      | some m => if least = m then toString least else s!"{least} to {m}"
    call.fail s!"expected {expected} arguments, got {count}"

/-- The only argument. -/
def one (call : Call) (arguments : List Value) : Except Error Value :=
  (call.expect arguments 1 (some 1)).map fun _ => arguments.headD .null

/-- The only argument as text. -/
def text (call : Call) (arguments : List Value) : Except Error String :=
  (call.one arguments).map Value.output

/-- The two arguments. -/
def two (call : Call) (arguments : List Value) : Except Error (Value × Value) :=
  (call.expect arguments 2 (some 2)).map fun _ => (arguments.getD 0 .null, arguments.getD 1 .null)

/-- The number an argument stands for. -/
def number (call : Call) (argument : Value) : Except Error Float :=
  match argument.asNumber? with
  | some x => .ok x
  | none => call.fail s!"`{argument.display}` is not a number"

end Call

end TagTemplate
