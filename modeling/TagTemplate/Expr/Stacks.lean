import TagTemplate.Expr.Arithmetic
import TagTemplate.Expr.Path
import TagTemplate.Function.Native

/-!
# Evaluating as tokens come

A stack of operators, open groups and open calls beside a stack of operands. Every token is worked
off as soon as precedence allows; no token is kept. Both stacks have their top first.
-/

namespace TagTemplate.Expr

/-- What stops an evaluation. -/
inductive Failure where
  | lexical (character : Char) (position : Nat)
  | openEnd (reason : OpenEnd)
  | problem (problem : Problem)
  /-- An error of a function. -/
  | raised (error : Error)

/-- The engine's error for a failure in an expression. -/
def Failure.error (expression : String) : Failure → Error
  | lexical character position => .lexical expression character position
  | openEnd reason => .unexpectedEnd expression reason
  | problem p => .evaluation expression p
  | raised error => error

/-- What an expression is evaluated in. -/
structure Env where
  scope : Scope
  functions : Registry
  iteration : Option Iteration

/-- What waits for operands. -/
inductive Entry where
  | operator (op : Operator)
  | group
  /-- An open call with the commas so far and the number of operands below its arguments. -/
  | call (name : String) (commas base : Nat)
  deriving Repr, DecidableEq

/-- The two stacks, and whether the next token must be an operand. -/
structure Stacks where
  operators : List Entry
  operands : List Value
  expecting : Bool

/-- The stacks before the first token. -/
def Stacks.initial : Stacks := ⟨[], [], true⟩

/-- Stops with a problem. -/
def stop {α : Type} (p : Problem) : Except Failure α := .error (.problem p)

/-- Applies an operator to the operands on top. -/
def applyOperator (op : Operator) (operands : List Value) : Except Failure (List Value) :=
  let lift (result : Except Problem Value) (rest : List Value) :=
    (result.mapError Failure.problem).map (· :: rest)
  match op, operands with
  | .sign _, [] => stop .missingOperand
  | .sign s, v :: rest => lift (s.apply v) rest
  | .binary op, right :: left :: rest => lift (op.apply left right) rest
  | .binary op, _ => stop (.missingOperandFor (.binary op))

/-- Applies the operators on top that bind at least as strongly as `op`. -/
def reduceFor (op : Binary) : List Entry → List Value → Except Failure (List Entry × List Value)
  | .operator top :: rest, operands =>
    if op.precedence ≤ top.precedence then
      (applyOperator top operands).bind (reduceFor op rest)
    else .ok (.operator top :: rest, operands)
  | entries, operands => .ok (entries, operands)

/-- Applies all operators above the innermost open group or call. -/
def reduceGroup : List Entry → List Value → Except Failure (List Entry × List Value)
  | .operator top :: rest, operands => (applyOperator top operands).bind (reduceGroup rest)
  | entries, operands => .ok (entries, operands)

namespace Stacks

/-- Takes an operand in. -/
def pushOperand (s : Stacks) (v : Value) : Except Failure Stacks :=
  if s.expecting then .ok { s with operands := v :: s.operands, expecting := false }
  else stop .operandAfterOperand

/-- Takes a sign in. -/
def pushSign (s : Stacks) (sign : Sign) : Stacks :=
  { s with operators := .operator (.sign sign) :: s.operators }

/-- Takes an operator between operands in. -/
def pushBinary (s : Stacks) (op : Binary) : Except Failure Stacks :=
  if s.expecting then stop (.noOperandBefore (.binary op))
  else (reduceFor op s.operators s.operands).map fun (operators, operands) =>
    ⟨.operator (.binary op) :: operators, operands, true⟩

/-- Opens a group. -/
def openGroup (s : Stacks) : Except Failure Stacks :=
  if s.expecting then .ok { s with operators := .group :: s.operators }
  else stop .groupAfterOperand

/-- Opens a call. -/
def openCall (s : Stacks) (name : String) : Except Failure Stacks :=
  if s.expecting then .ok { s with operators := .call name 0 s.operands.length :: s.operators }
  else stop (.callAfterOperand name)

/-- The innermost open entry is a call without anything in its parentheses. -/
def inEmptyCall (s : Stacks) : Bool :=
  match s.operators with
  | .call _ 0 base :: _ => base == s.operands.length
  | _ => false

/-- Closes the innermost group or call; a call is carried out. -/
def close (env : Env) (s : Stacks) : Except Failure Stacks :=
  if s.expecting && !s.inEmptyCall then stop .noOperandBeforeClose
  else (reduceGroup s.operators s.operands).bind fun (operators, operands) =>
    match operators with
    | .group :: rest => .ok ⟨rest, operands, false⟩
    | .call name commas base :: rest =>
      let supplied := operands.length - base
      if supplied = (if supplied = 0 then 0 else commas + 1) then
        let arguments := (operands.take supplied).reverse
        match env.functions.call ⟨name, env.scope, env.iteration⟩ arguments with
        | .ok v => .ok ⟨rest, v :: operands.drop supplied, false⟩
        | .error e => .error (.raised e)
      else stop (.malformedArguments name)
    | _ => stop .unbalancedClose

/-- Ends an argument of the innermost open call. -/
def comma (s : Stacks) : Except Failure Stacks :=
  if s.expecting then stop .noArgumentBeforeComma
  else (reduceGroup s.operators s.operands).bind fun (operators, operands) =>
    match operators with
    | .call name commas base :: rest => .ok ⟨.call name (commas + 1) base :: rest, operands, true⟩
    | _ => stop .strayComma

/-- The entry is an open group or call. -/
def isOpen : Entry → Bool
  | .operator _ => false
  | _ => true

/-- The value once all tokens are in. Without any token it is null. -/
def finish (s : Stacks) : Except Failure Value :=
  if s.operands.isEmpty ∧ s.operators.isEmpty then .ok .null
  else if s.operators.any isOpen then .error (.openEnd .parenthesis)
  else if s.expecting then stop .trailingOperator
  else (reduceGroup s.operators s.operands).bind fun (_, operands) =>
    match operands with
    | [v] => .ok v
    | _ => stop .operandAfterOperand

end Stacks

end TagTemplate.Expr
