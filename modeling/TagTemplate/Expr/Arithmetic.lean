import TagTemplate.Expr.Problem
import TagTemplate.Value.Output

/-!
# Operators applied

`+` joins texts when one of its operands is text that does not read as a number; otherwise all
operators work on numbers.
-/

namespace TagTemplate.Expr

/-- The number an operand stands for. -/
def operandNumber (op : Operator) (v : Value) : Except Problem Float :=
  match v.asNumber? with
  | some x => .ok x
  | none => .error (.notANumber op v.display)

/-- A sign applied to a value. -/
def Sign.apply (sign : Sign) (v : Value) : Except Problem Value :=
  (operandNumber (.sign sign) v).map fun x =>
    .number (match sign with
      | .minus => -x
      | .plus => x)

/-- An operator applied to two numbers. -/
def Binary.applyNumbers (op : Binary) (x y : Float) : Except Problem Float :=
  match op with
  | .add => .ok (x + y)
  | .sub => .ok (x - y)
  | .mul => .ok (x * y)
  | .div => if y == 0.0 then .error .divisionByZero else .ok (x / y)

/-- An operator applied to two values. -/
def Binary.apply (op : Binary) (left right : Value) : Except Problem Value :=
  if op = .add ∧ (left.isText ∨ right.isText) then .ok (.string (left.output ++ right.output))
  else do
    let x ← operandNumber (.binary op) left
    let y ← operandNumber (.binary op) right
    (op.applyNumbers x y).map Value.number

end TagTemplate.Expr
