import TagTemplate.Expr.Operator

/-!
# What can be wrong with an expression

Besides the problems of evaluation these are the problems of what templates do with expressions: put
them between braces in an attribute, or walk over their values.
-/

namespace TagTemplate.Expr

/-- What an expression leaves open at its end. -/
inductive OpenEnd where
  | string
  | parenthesis
  deriving Repr, DecidableEq

/-- Why an expression has no value. -/
inductive Problem where
  | pathAfterOperand
  | nameAfterOperand (name : String)
  | groupAfterOperand
  | callAfterOperand (name : String)
  | operandAfterOperand
  | noOperandBefore (op : Operator)
  | noOperandBeforeClose
  | unbalancedClose
  | malformedArguments (name : String)
  | noArgumentBeforeComma
  | strayComma
  | trailingOperator
  | badNumeral (literal : String)
  | missingOperand
  | missingOperandFor (op : Operator)
  /-- An operand that is no number, as it is written out. -/
  | notANumber (op : Operator) (shown : String)
  | divisionByZero
  /-- An attribute opens a brace and does not close it. -/
  | unclosedBrace
  | walkNotFinite
  /-- A number of iterations, as it is written out, above the limit. -/
  | walkTooLong (count : String) (limit : Nat)
  deriving Repr, DecidableEq

/-- The report of an open end. -/
def OpenEnd.message : OpenEnd → String
  | .string => "unterminated string literal"
  | .parenthesis => "unclosed parenthesis"

/-- The report of a problem. -/
def Problem.message : Problem → String
  | .pathAfterOperand => "missing operator before path"
  | .nameAfterOperand name => s!"missing operator before `{name}`"
  | .groupAfterOperand => "missing operator before `(`"
  | .callAfterOperand name => s!"missing operator before `{name}(`"
  | .operandAfterOperand => "missing operator between operands"
  | .noOperandBefore op => s!"missing operand before `{op.symbol}`"
  | .noOperandBeforeClose => "missing operand before `)`"
  | .unbalancedClose => "unbalanced `)`"
  | .malformedArguments name => s!"malformed argument list for `{name}`"
  | .noArgumentBeforeComma => "missing argument before `,`"
  | .strayComma => "`,` outside of a function call"
  | .trailingOperator => "expression ends with an operator"
  | .badNumeral literal => s!"invalid number `{literal}`"
  | .missingOperand => "missing operand"
  | .missingOperandFor op => s!"missing operand for `{op.symbol}`"
  | .notANumber op shown => s!"`{op.symbol}` expects numbers, got `{shown}`"
  | .divisionByZero => "division by zero"
  | .unclosedBrace => "unclosed `\x7b`"
  | .walkNotFinite => "walk count is not a finite number"
  | .walkTooLong count limit => s!"walk count {count} exceeds the limit of {limit}"

end TagTemplate.Expr
