import TagTemplate.Function.Basic

/-!
# Comparing and choosing

Two values that both stand for numbers are compared as numbers, any others by their text.
-/

namespace TagTemplate.Function

/-- The order of two numbers; a number that is none has no order. -/
def compareNumbers (x y : Float) : Option Ordering :=
  if x < y then some .lt else if x == y then some .eq else if y < x then some .gt else none

/-- The order of two values, if they have one. -/
def compareValues (left right : Value) : Option Ordering :=
  match left.asNumber?, right.asNumber? with
  | some x, some y => compareNumbers x y
  | _, _ => some (compare left.output right.output)

/-- A function of two values that answers by their order. -/
def comparison (holds : Option Ordering → Bool) : Function := fun call arguments =>
  (call.two arguments).map fun (left, right) => .bool (holds (compareValues left right))

/-- Tells whether the values are the same in order. -/
def eq : Function := comparison (· == some .eq)

/-- Tells whether the values are not the same in order. -/
def neq : Function := comparison (· != some .eq)

/-- Tells whether the first value comes first. -/
def lt : Function := comparison (· == some .lt)

/-- Tells whether the first value comes last. -/
def gt : Function := comparison (· == some .gt)

/-- Tells whether the first value does not come last. -/
def le : Function := comparison fun o => o == some .lt || o == some .eq

/-- Tells whether the first value does not come first. -/
def ge : Function := comparison fun o => o == some .gt || o == some .eq

/-- Tells whether the value is false. -/
def not : Function := fun call arguments =>
  (call.one arguments).map fun v => .bool (!v.isTruthy)

/-- Tells whether all values are true. -/
def and : Function := fun call arguments =>
  (call.expect arguments 1 none).map fun _ => .bool (arguments.all Value.isTruthy)

/-- Tells whether some value is true. -/
def or : Function := fun call arguments =>
  (call.expect arguments 1 none).map fun _ => .bool (arguments.any Value.isTruthy)

/-- The second or the third value, as the first is true or not; a missing third one is null. -/
def choose : Function := fun call arguments =>
  (call.expect arguments 2 (some 3)).map fun _ =>
    if (arguments.getD 0 .null).isTruthy then arguments.getD 1 .null else arguments.getD 2 .null

/-- The first value if it is true, otherwise the second. -/
def fallback : Function := fun call arguments =>
  (call.two arguments).map fun (value, other) => if value.isTruthy then value else other

/-- Tells whether the value is empty. -/
def empty : Function := fun call arguments =>
  (call.one arguments).map fun v => .bool v.isEmpty

end TagTemplate.Function
