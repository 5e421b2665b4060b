import TagTemplate.Function.Basic

/-!
# The innermost iteration

Functions that tell where in a loop the call stands. Outside of loops the position is zero, the key
is null and every question is answered with no.
-/

namespace TagTemplate.Function

/-- A function without arguments that answers from the innermost iteration. -/
def iterating (outside : Value) (inside : Iteration → Value) : Function := fun call arguments =>
  (call.expect arguments 0 (some 0)).map fun _ => (call.iteration.map inside).getD outside

/-- The position in the loop, counted from one. -/
def position : Function := iterating (.number 0.0) fun it => .number (Float.ofNat it.position)

/-- Tells whether this is the first of the loop. -/
def first : Function := iterating (.bool false) fun it => .bool it.isFirst

/-- Tells whether this is the last of the loop. -/
def last : Function := iterating (.bool false) fun it => .bool it.isLast

/-- Tells whether the position is even. -/
def even : Function := iterating (.bool false) fun it => .bool (it.position % 2 == 0)

/-- Tells whether the position is odd. -/
def odd : Function := iterating (.bool false) fun it => .bool (it.position % 2 == 1)

/-- The name or index of the current item. -/
def key : Function := iterating .null Iteration.key

end TagTemplate.Function
