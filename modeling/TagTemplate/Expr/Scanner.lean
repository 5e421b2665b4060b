import TagTemplate.Expr.Stacks
import TagTemplate.Text.Alphabetic

/-!
# Reading expressions

The scanner reads an expression one character at a time and hands each token to the stacks as soon
as it is complete. A character that ends a token without belonging to it is read a second time,
between tokens.
-/

namespace TagTemplate.Expr

open TagTemplate.Text

/-- Where in a token the next character stands. -/
inductive Mode where
  /-- Between tokens. -/
  | idle
  /-- In a string, maybe after a backslash. -/
  | quoted (quote : Char) (escaped : Bool)
  /-- In a name. -/
  | name
  /-- In a numeral, maybe after its point. -/
  | numeral (seenPoint : Bool)
  /-- After a dot where an operand must stand. -/
  | dot
  /-- After two dots. -/
  | dots
  /-- After a slash in a path. -/
  | slash
  deriving Repr, DecidableEq

/-- The scanner with the token it is in, the path it is in and the stacks. -/
structure Scanner where
  mode : Mode
  buffer : List Char
  path : Option Path
  held : Stacks

/-- The scanner before the first character. -/
def Scanner.initial : Scanner := ⟨.idle, [], none, .initial⟩

/-- The character may stand inside a name. -/
def isNameChar (c : Char) : Bool := isAlphanumeric c || c = '_'

/-- The character may stand at the start of a name. -/
def isNameStart (c : Char) : Bool := isAlphabetic c || c = '_'

/-- The value of a keyword. -/
def keyword? (name : String) : Option Value :=
  if name = "true" then some (.bool true)
  else if name = "false" then some (.bool false)
  else if name = "null" then some .null
  else none

namespace Scanner

/-- The scanner between tokens with new stacks. -/
def idle (s : Scanner) (held : Stacks) : Scanner :=
  { s with mode := .idle, buffer := [], held }

/-- Begins a path at a root other than a name. -/
def beginPath (s : Scanner) (root : Root) : Except Failure Scanner :=
  if s.held.expecting then .ok { s with path := some ⟨root, []⟩ } else stop .pathAfterOperand

/-- Adds a step to the path; the first step begins a scoped path. -/
def addStep (s : Scanner) (step : String) : Except Failure Scanner :=
  match s.path with
  | some path => .ok { s with path := some { path with steps := path.steps ++ [step] } }
  | none =>
    if s.held.expecting then .ok { s with path := some ⟨.scoped, [step]⟩ }
    else stop (.nameAfterOperand step)

/-- Ends the path and takes its value in as an operand. -/
def finishPath (env : Env) (s : Scanner) : Except Failure Scanner :=
  match s.path with
  | none => .ok { s with mode := .idle }
  | some path =>
    (s.held.pushOperand (path.resolve env.scope)).map fun held =>
      { s with mode := .idle, path := none, held }

/-- Ends a name: a keyword, or the last step of a path. -/
def finishName (env : Env) (s : Scanner) : Except Failure Scanner :=
  let name := String.ofList s.buffer
  let ended := { s with mode := .idle, buffer := [] }
  match (if s.path.isNone then keyword? name else none) with
  | some v => (s.held.pushOperand v).map ended.idle
  | none => (ended.addStep name).bind (finishPath env)

/-- Ends a numeral. -/
def finishNumeral (s : Scanner) : Except Failure Scanner :=
  match Number.read? s.buffer with
  | some x => (s.held.pushOperand (.number x)).map s.idle
  | none => stop (.badNumeral (String.ofList s.buffer))

/-- Ends a path that is a root without steps. -/
def finishRoot (env : Env) (s : Scanner) (root : Root) : Except Failure Scanner :=
  (s.beginPath root).bind (finishPath env)

/-- Adds a character to the token. -/
def keep (s : Scanner) (c : Char) : Scanner := { s with buffer := s.buffer ++ [c] }

/-- Goes to another mode. -/
def goto (s : Scanner) (mode : Mode) : Scanner := { s with mode }

/-- Hands a token without a text of its own to the stacks. -/
def onHeld (s : Scanner) (held : Except Failure Stacks) : Except Failure Scanner :=
  held.map fun held => { s with held }

/-- A sign where an operand must stand, otherwise an operator. -/
def signOrOperator (s : Scanner) (sign : Sign) (op : Binary) : Except Failure Scanner :=
  if s.held.expecting then .ok { s with held := s.held.pushSign sign }
  else s.onHeld (s.held.pushBinary op)

/-- Reads a character between tokens. -/
def readIdle (env : Env) (s : Scanner) (c : Char) (position : Nat) : Except Failure Scanner :=
  if c = '\'' ∨ c = '"' then .ok (s.goto (.quoted c false))
  else if c = '+' then s.signOrOperator .plus .add
  else if c = '-' then s.signOrOperator .minus .sub
  else if c = '*' then s.onHeld (s.held.pushBinary .mul)
  else if c = '/' then
    if s.held.expecting then (s.beginPath .absolute).map (·.goto .slash)
    else s.onHeld (s.held.pushBinary .div)
  else if c = '(' then s.onHeld s.held.openGroup
  else if c = ')' then s.onHeld (s.held.close env)
  else if c = ',' then s.onHeld s.held.comma
  else if c = '.' then
    if s.held.expecting then .ok (s.goto .dot) else .error (.lexical c position)
  else if c.isDigit then .ok ((s.keep c).goto (.numeral false))
  else if isNameStart c then .ok ((s.keep c).goto .name)
  else if isBlank c then .ok s
  else .error (.lexical c position)

/-- Reads a character in a string. -/
def readQuoted (s : Scanner) (quote : Char) (escaped : Bool) (c : Char) :
    Except Failure Scanner :=
  if escaped then .ok ((s.keep c).goto (.quoted quote false))
  else if c = '\\' then .ok (s.goto (.quoted quote true))
  else if c = quote then
    (s.held.pushOperand (.string (String.ofList s.buffer))).map s.idle
  else .ok (s.keep c)

/-- Reads a character. The answer tells whether it was used up; if not, the scanner is between
tokens and reads it again. -/
def read (env : Env) (s : Scanner) (c : Char) (position : Nat) : Except Failure (Bool × Scanner) :=
  let used (result : Except Failure Scanner) := result.map fun s => (true, s)
  let again (result : Except Failure Scanner) := result.map fun s => (false, s)
  match s.mode with
  | .idle => used (s.readIdle env c position)
  | .quoted quote escaped => used (s.readQuoted quote escaped c)
  | .name =>
    if isNameChar c then used (.ok (s.keep c))
    else if c = '(' ∧ s.path.isNone then
      used ((s.held.openCall (String.ofList s.buffer)).map s.idle)
    else if c = '/' then
      used (({ s with buffer := [] : Scanner }.addStep (String.ofList s.buffer)).map
        (·.goto .slash))
    else again (s.finishName env)
  | .numeral seenPoint =>
    if c.isDigit then used (.ok (s.keep c))
    else if c = '.' then
      if seenPoint then .error (.lexical c position)
      else used (.ok ((s.keep c).goto (.numeral true)))
    else if isNameStart c then .error (.lexical c position)
    else again s.finishNumeral
  | .dot =>
    if c = '.' then used (.ok (s.goto .dots))
    else if c = '/' then used ((s.beginPath .current).map (·.goto .slash))
    else if c.isDigit then
      used (.ok ((((s.keep '0').keep '.').keep c).goto (.numeral true)))
    else again (s.finishRoot env .current)
  | .dots =>
    if c = '/' then used ((s.beginPath .parent).map (·.goto .slash))
    else again (s.finishRoot env .parent)
  | .slash =>
    if isNameChar c then used (.ok ((s.keep c).goto .name)) else again (s.finishPath env)

/-- Reads a character until it is used up. -/
def feed (env : Env) (s : Scanner) (c : Char) (position : Nat) : Except Failure Scanner := do
  let (used, s) ← s.read env c position
  if used then .ok s else (·.2) <$> s.read env c position

/-- Reads all characters; `position` counts them. -/
def feedAll (env : Env) : Scanner → Nat → List Char → Except Failure Scanner
  | s, _, [] => .ok s
  | s, position, c :: cs => do
    let s ← s.feed env c position
    s.feedAll env (position + 1) cs

/-- Ends the token at the end of the expression. -/
def finishToken (env : Env) (s : Scanner) : Except Failure Scanner :=
  match s.mode with
  | .idle => .ok s
  | .quoted _ _ => .error (.openEnd .string)
  | .name => s.finishName env
  | .numeral _ => s.finishNumeral
  | .dot => s.finishRoot env .current
  | .dots => s.finishRoot env .parent
  | .slash => s.finishPath env

/-- The value at the end of the expression. -/
def finish (env : Env) (s : Scanner) : Except Failure Value :=
  (s.finishToken env).bind fun s => s.held.finish

end Scanner

/-- The value of an expression. -/
def evaluate (env : Env) (expression : String) : Except Error Value :=
  ((Scanner.initial.feedAll env 0 expression.toList).bind (Scanner.finish env)).mapError
    (Failure.error expression)

/-- The value of an expression with the native functions only and outside of loops. -/
def evaluatePlain (scope : Scope) (expression : String) : Except Error Value :=
  evaluate ⟨scope, .empty, none⟩ expression

end TagTemplate.Expr
