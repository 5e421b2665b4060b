import TagTemplate.Expr.Scanner
import TagTemplate.Proofs.Number.Numeral

/-!
# The grammar of expressions

    sum     := product (('+' | '-') product)*
    product := unary (('*' | '/') unary)*
    unary   := ('+' | '-') unary | primary
    primary := number | string | keyword | path | call | '(' sum ')'

- `Tree`: what an expression is made of; `Tree.Grammatical` says that it is a tree of the grammar;
- `Tree.eval`: its value, found from the left to the right and from the leaves upwards;
- `Tree.tokens`: its tokens in order;
- `Spells`: a text is a spelling of a list of tokens, with white space wherever it may stand;
- `Accepted`: the same with a slash behind any path, which stands for nothing.
-/

namespace TagTemplate.Expr

open TagTemplate.Text

/-- A name with a value of its own. -/
inductive Keyword where
  | true
  | false
  | null
  deriving Repr, DecidableEq

/-- How a keyword is written. -/
def Keyword.text : Keyword → String
  | .true => "true"
  | .false => "false"
  | .null => "null"

/-- What a keyword stands for. -/
def Keyword.value : Keyword → Value
  | .true => .bool Bool.true
  | .false => .bool Bool.false
  | .null => .null

/-- An operand that is a single token. -/
inductive Operand where
  | string (text : List Char)
  /-- The digits before and after the point. -/
  | number (whole fraction : List Char)
  | keyword (keyword : Keyword)
  | path (path : Path)
  deriving Repr, DecidableEq

/-- What an operand stands for. -/
def Operand.value (scope : Scope) : Operand → Value
  | .string text => .string (String.ofList text)
  | .number whole fraction => .number (Number.numeralValue whole fraction)
  | .keyword k => k.value
  | .path p => p.resolve scope

/-- An expression as a tree. -/
inductive Tree where
  | operand (operand : Operand)
  | sign (sign : Sign) (inner : Tree)
  | binary (op : Binary) (left right : Tree)
  | group (inner : Tree)
  | call (name : String) (arguments : List Tree)

/-! ## Values of trees -/

mutual

/-- The value of a tree, or the first error on the way. -/
def Tree.eval (env : Env) : Tree → Except Failure Value
  | .operand o => .ok (o.value env.scope)
  | .sign s t => (t.eval env).bind fun v => (s.apply v).mapError .problem
  | .binary op l r =>
    (l.eval env).bind fun v => (r.eval env).bind fun w => (op.apply v w).mapError .problem
  | .group t => t.eval env
  | .call name ts => (evalAll env ts).bind fun vs =>
    (env.functions.call ⟨name, env.scope, env.iteration⟩ vs).mapError .raised

/-- The values of several trees, or the first error on the way. -/
def evalAll (env : Env) : List Tree → Except Failure (List Value)
  | [] => .ok []
  | t :: ts => (t.eval env).bind fun v => (evalAll env ts).map (v :: ·)

end

/-! ## Trees of the grammar -/

/-- The place of a tree in the grammar: 1 for a sum, 2 for a product, 3 for a sign, 4 for a
primary. Every tree of a level stands also where a lower one is asked for. -/
def Tree.level : Tree → Nat
  | .binary op _ _ => op.precedence
  | .sign _ _ => 3
  | _ => 4

/-- The trees of the grammar. The left operand of an operator may hold operators of the same level,
the right operand may not. -/
inductive Tree.Grammatical : Tree → Prop
  | operand (o : Operand) : Grammatical (.operand o)
  | sign (s : Sign) {t : Tree} : t.Grammatical → 3 ≤ t.level → Grammatical (.sign s t)
  | binary (op : Binary) {l r : Tree} : l.Grammatical → r.Grammatical →
      op.precedence ≤ l.level → op.precedence < r.level → Grammatical (.binary op l r)
  | group {t : Tree} : t.Grammatical → Grammatical (.group t)
  | call (name : String) {ts : List Tree} : (∀ t ∈ ts, t.Grammatical) → Grammatical (.call name ts)

/-! ## Tokens -/

/-- A token. The parenthesis that opens a call belongs to its name. -/
inductive Token where
  | operand (operand : Operand)
  | sign (sign : Sign)
  | binary (op : Binary)
  | opening
  | closing
  | comma
  | call (name : String)
  deriving Repr, DecidableEq

mutual

/-- The tokens of a tree in order. -/
def Tree.tokens : Tree → List Token
  | .operand o => [.operand o]
  | .sign s t => .sign s :: t.tokens
  | .binary op l r => l.tokens ++ .binary op :: r.tokens
  | .group t => .opening :: (t.tokens ++ [.closing])
  | .call name ts => .call name :: (argumentTokens ts ++ [.closing])

/-- The tokens of a call's arguments, with commas between them. -/
def argumentTokens : List Tree → List Token
  | [] => []
  | t :: ts => t.tokens ++ furtherTokens ts

/-- The tokens of the arguments after the first, each with its comma. -/
def furtherTokens : List Tree → List Token
  | [] => []
  | t :: ts => .comma :: (t.tokens ++ furtherTokens ts)

end

/-! ## Spellings -/

/-- A name of a function, or of the first step of a path that starts with a name. -/
def IsName (name : List Char) : Prop :=
  ∃ c cs, name = c :: cs ∧ isNameStart c = true ∧ ∀ d ∈ cs, isNameChar d = true

/-- A step of a path: unlike a name it may start with a digit. -/
def IsStep (step : List Char) : Prop := step ≠ [] ∧ ∀ c ∈ step, isNameChar c = true

/-- The characters of a string between its quotes: a backslash in front of any character, and
always in front of a backslash and of the quote. -/
inductive Quotes (quote : Char) : List Char → List Char → Prop
  | nil : Quotes quote [] []
  | plain {c : Char} {cs body : List Char} : c ≠ quote → c ≠ '\\' → Quotes quote cs body →
      Quotes quote (c :: cs) (c :: body)
  | escaped {c : Char} {cs body : List Char} : Quotes quote cs body →
      Quotes quote (c :: cs) ('\\' :: c :: body)

/-- Steps with a slash in front of each. -/
def slashed (steps : List String) : List Char := steps.flatMap fun step => '/' :: step.toList

/-- How a path is written. -/
def Path.spelling : Path → List Char
  | ⟨.absolute, []⟩ => ['/']
  | ⟨.absolute, step :: steps⟩ => slashed (step :: steps)
  | ⟨.current, steps⟩ => '.' :: slashed steps
  | ⟨.parent, steps⟩ => '.' :: '.' :: slashed steps
  | ⟨.scoped, []⟩ => []
  | ⟨.scoped, step :: steps⟩ => step.toList ++ slashed steps

/-- The path can be written: its steps are steps, and a scoped path starts with a name that is no
keyword by itself. -/
structure Path.Writable (p : Path) : Prop where
  steps : ∀ step ∈ p.steps, IsStep step.toList
  named : p.root = .scoped → ∃ first rest, p.steps = first :: rest ∧ IsName first.toList ∧
    (rest = [] → ∀ k : Keyword, k.text ≠ first)

/-- How an operand is written. -/
inductive Operand.Spelled : Operand → List Char → Prop
  | string {quote : Char} {text body : List Char} : quote = '\'' ∨ quote = '"' →
      Quotes quote text body → Spelled (.string text) (quote :: (body ++ [quote]))
  | whole {digits : List Char} : digits ≠ [] → (∀ c ∈ digits, c.isDigit = true) →
      Spelled (.number digits []) digits
  | decimal {whole fraction : List Char} : whole ≠ [] ∨ fraction ≠ [] →
      (∀ c ∈ whole, c.isDigit = true) → (∀ c ∈ fraction, c.isDigit = true) →
      Spelled (.number whole fraction) (whole ++ '.' :: fraction)
  | keyword (k : Keyword) : Spelled (.keyword k) k.text.toList
  | path {p : Path} : p.Writable → Spelled (.path p) p.spelling

/-- How a token is written. -/
inductive Token.Spelled : Token → List Char → Prop
  | operand {o : Operand} {cs : List Char} : o.Spelled cs → Spelled (.operand o) cs
  | sign (s : Sign) : Spelled (.sign s) [s.symbol]
  | binary (op : Binary) : Spelled (.binary op) [op.symbol]
  | opening : Spelled .opening ['(']
  | closing : Spelled .closing [')']
  | comma : Spelled .comma [',']
  | call {name : String} : IsName name.toList → Spelled (.call name) (name.toList ++ ['('])

/-- A slash right after the token would be read as a part of it. -/
def Token.takesSlash : Token → Bool
  | .operand (.keyword _) => true
  | .operand (.path _) => true
  | _ => false

/-- The text starts with white space. -/
def StartsBlank (text : List Char) : Prop := ∃ c cs, text = c :: cs ∧ isBlank c = true

/-- A spelling of a list of tokens: any white space in front of each token and at the end, and some
between a keyword or path and a division. -/
inductive Spells : List Token → List Char → Prop
  | nil {blanks : List Char} : (∀ c ∈ blanks, isBlank c = true) → Spells [] blanks
  | cons {t : Token} {ts : List Token} {blanks text rest : List Char} :
      (∀ c ∈ blanks, isBlank c = true) → t.Spelled text → Spells ts rest →
      (t.takesSlash = true → ts.head? = some (.binary .div) → StartsBlank rest) →
      Spells (t :: ts) (blanks ++ (text ++ rest))

/-! ## Slashes behind paths -/

/-- A step may follow on the path: a scoped path has its first name. -/
structure Path.Begun (p : Path) : Prop where
  steps : ∀ step ∈ p.steps, IsStep step.toList
  named : p.root = .scoped → ∃ first rest, p.steps = first :: rest ∧ IsName first.toList

/-- How a path is written in front of a slash. The slash itself is all there is of the universe. -/
def Path.lead : Path → List Char
  | ⟨.absolute, steps⟩ => slashed steps
  | ⟨.current, steps⟩ => '.' :: slashed steps
  | ⟨.parent, steps⟩ => '.' :: '.' :: slashed steps
  | ⟨.scoped, []⟩ => []
  | ⟨.scoped, step :: steps⟩ => step.toList ++ slashed steps

/-- The path with one more step. -/
def Path.followed (p : Path) (step : String) : Path := { p with steps := p.steps ++ [step] }

/-- How a token may be written in an expression that is accepted; the flag says whether a slash
right behind it would be read as a part of it. Besides the spellings of the grammar, a path may have
a slash behind it. -/
inductive Token.Accepted : Token → Bool → List Char → Prop
  | spelled {t : Token} {text : List Char} : t.Spelled text → Accepted t t.takesSlash text
  | slash {p : Path} : p.Begun → Accepted (.operand (.path p)) false (p.lead ++ ['/'])

/-- How a list of tokens may be written: any white space in front of each token and at the end, and
some in front of a division that would be read as a part of the path before it. -/
inductive Accepted : List Token → List Char → Prop
  | nil {blanks : List Char} : (∀ c ∈ blanks, isBlank c = true) → Accepted [] blanks
  | cons {t : Token} {ts : List Token} {takesSlash : Bool} {blanks text rest : List Char} :
      (∀ c ∈ blanks, isBlank c = true) → t.Accepted takesSlash text → Accepted ts rest →
      (takesSlash = true → ts.head? = some (.binary .div) → StartsBlank rest) →
      Accepted (t :: ts) (blanks ++ (text ++ rest))

end TagTemplate.Expr
