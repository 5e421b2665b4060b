/-!
# Operators and roots of paths
-/

namespace TagTemplate.Expr

/-- A sign in front of an operand. -/
inductive Sign where
  | plus
  | minus
  deriving Repr, DecidableEq

/-- An operator between two operands. -/
inductive Binary where
  | add
  | sub
  | mul
  | div
  deriving Repr, DecidableEq

/-- An operator of the expression language. -/
inductive Operator where
  | sign (sign : Sign)
  | binary (op : Binary)
  deriving Repr, DecidableEq

/-- Where a path starts. -/
inductive Root where
  /-- `/`: the universe. -/
  | absolute
  /-- `.`: the innermost layer. -/
  | current
  /-- `..`: the layer below the innermost one. -/
  | parent
  /-- A bare name, looked up through every layer. -/
  | scoped
  deriving Repr, DecidableEq

/-- How strongly an operator between operands binds. -/
def Binary.precedence : Binary → Nat
  | .add | .sub => 1
  | .mul | .div => 2

/-- How strongly an operator binds: a sign more than any operator between operands. -/
def Operator.precedence : Operator → Nat
  | .sign _ => 3
  | .binary op => op.precedence

/-- The spelling of a sign. -/
def Sign.symbol : Sign → Char
  | .plus => '+'
  | .minus => '-'

/-- The spelling of an operator between operands. -/
def Binary.symbol : Binary → Char
  | .add => '+'
  | .sub => '-'
  | .mul => '*'
  | .div => '/'

/-- The spelling of an operator. -/
def Operator.symbol : Operator → Char
  | .sign s => s.symbol
  | .binary op => op.symbol

end TagTemplate.Expr
