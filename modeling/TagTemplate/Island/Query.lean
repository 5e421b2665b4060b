import TagTemplate.Number.Read
import TagTemplate.Text.Blank
import TagTemplate.Text.Search

/-!
# Location paths

A query is a list of steps, each after `/` (children) or `//` (descendants): an element name or
`*`, optionally with one predicate, or in last place `text()` or `@name`.
-/

namespace TagTemplate.Island

open TagTemplate.Text

/-- What a step selects. -/
inductive NodeTest where
  /-- Elements with a name, `*` being any name. -/
  | element (name : String)
  | text
  /-- Attributes with a name, `*` being any name. -/
  | attr (name : String)
  deriving Repr, DecidableEq

/-- What selected elements must satisfy besides. -/
inductive Predicate where
  | always
  /-- The n-th of its siblings that pass the test, counted from one. -/
  | position (n : Nat)
  | hasAttribute (name : String)
  | attributeIs (name value : String)
  deriving Repr, DecidableEq

/-- One step of a location path. -/
structure Step where
  descendant : Bool
  test : NodeTest
  predicate : Predicate
  deriving Repr, DecidableEq

/-- Why a query is not understood; `query` and `rest` are texts of the query. -/
inductive QueryFault where
  | empty
  | unexpected (rest query : String)
  | trailingSeparator (query : String)
  | belowLeaf (query : String)
  | unclosedPredicate (query : String)
  | emptyStep (query : String)
  | predicateOnLeaf (query : String)
  | zeroPosition (query : String)
  | unsupportedPredicate (inner query : String)
  | unquotedValue (inner : String)
  deriving Repr, DecidableEq

/-- The report of a query that is not understood. -/
def QueryFault.message : QueryFault → String
  | .empty => "empty xpath query"
  | .unexpected rest query => s!"unexpected `{rest}` in `{query}`"
  | .trailingSeparator query => s!"`{query}` ends with a separator"
  | .belowLeaf query => s!"`{query}` selects below a text or attribute node"
  | .unclosedPredicate query => s!"unclosed predicate in `{query}`"
  | .emptyStep query => s!"empty step in `{query}`"
  | .predicateOnLeaf query => s!"predicates apply to elements only, in `{query}`"
  | .zeroPosition query => s!"positions start at 1, in `{query}`"
  | .unsupportedPredicate inner query => s!"unsupported predicate `[{inner}]` in `{query}`"
  | .unquotedValue inner => s!"unquoted value in predicate `[{inner}]`"

/-- Cuts off the step at the start of a query: up to a `/` outside of quotes and brackets. -/
def breakStep : (depth : Nat) → (quote : Option Char) → List Char → List Char × List Char
  | _, _, [] => ([], [])
  | depth, some q, c :: cs =>
    let (step, rest) := breakStep depth (if c = q then none else some q) cs
    (c :: step, rest)
  | depth, none, c :: cs =>
    if c = '/' ∧ depth = 0 then ([], c :: cs)
    else
      let depth' := if c = '[' then depth + 1 else if c = ']' then depth - 1 else depth
      let quote := if c = '\'' ∨ c = '"' then some c else none
      let (step, rest) := breakStep depth' quote cs
      (c :: step, rest)

/-- Text without a quote at both ends. -/
def unquote? (value : List Char) : Option (List Char) :=
  match value with
  | '\'' :: inner => dropEnding? ['\''] inner
  | '"' :: inner => dropEnding? ['"'] inner
  | _ => none

/-- Reads the inside of a predicate's brackets. -/
def readPredicate (query : String) (inner : List Char) : Except QueryFault Predicate :=
  match Number.readIndex? inner with
  | some 0 => .error (.zeroPosition query)
  | some n => .ok (.position n)
  | none =>
    match inner with
    | '@' :: test =>
      match breakOn? ['='] test with
      | none => .ok (.hasAttribute (String.ofList (trim test)))
      | some (name, value) =>
        match unquote? (trim value) with
        | some value => .ok (.attributeIs (String.ofList (trim name)) (String.ofList value))
        | none => .error (.unquotedValue (String.ofList inner))
    | _ => .error (.unsupportedPredicate (String.ofList inner) query)

/-- Reads the test of a step. -/
def readTest (query : String) (raw : List Char) : Except QueryFault NodeTest :=
  match trim raw with
  | [] => .error (.emptyStep query)
  | '@' :: name => .ok (.attr (String.ofList name))
  | name =>
    if name = ['t', 'e', 'x', 't', '(', ')'] then .ok .text
    else .ok (.element (String.ofList name))

/-- The test is one for elements. -/
def NodeTest.isElement : NodeTest → Bool
  | .element _ => true
  | _ => false

/-- Reads one step without its separator. -/
def readStep (query : String) (descendant : Bool) (raw : List Char) : Except QueryFault Step := do
  let (test, predicate) ← match breakOn? ['['] raw with
    | none => .ok (raw, Predicate.always)
    | some (test, inner) =>
      match dropEnding? [']'] inner with
      | none => .error (.unclosedPredicate query)
      | some inner => (readPredicate query (trim inner)).map fun predicate => (test, predicate)
  let test ← readTest query test
  if predicate ≠ .always ∧ !test.isElement then .error (.predicateOnLeaf query)
  else .ok ⟨descendant, test, predicate⟩

/-- The separator at the start of a query, if one is there, and the text after it. -/
def readSeparator : List Char → Option Bool × List Char
  | '/' :: '/' :: rest => (some true, rest)
  | '/' :: rest => (some false, rest)
  | rest => (none, rest)

/-- Reads steps to the end of the query; each takes at least one character, so `fuel` is the
text's length. Only the first step may stand without a separator, and `/` alone has no step. -/
def readSteps (query : String) : Nat → (first : Bool) → List Char → Except QueryFault (List Step)
  | 0, _, _ => .ok []
  | fuel + 1, first, text =>
    if text = [] then .ok []
    else
      let (separator, rest) := readSeparator text
      if separator = none ∧ !first then .error (.unexpected (String.ofList text) query)
      else if rest = [] then
        if separator = some true ∨ !first then .error (.trailingSeparator query) else .ok []
      else do
        let (raw, rest) := breakStep 0 none rest
        let step ← readStep query (separator = some true) raw
        let steps ← readSteps query fuel false rest
        .ok (step :: steps)

/-- Reads a query. -/
def readQuery (text : String) : Except QueryFault (List Step) := do
  let trimmed := trim text.toList
  let query := String.ofList trimmed
  if trimmed = [] then .error .empty
  else
    let steps ← readSteps query (trimmed.length + 1) true trimmed
    if steps.dropLast.all (·.test.isElement) then .ok steps else .error (.belowLeaf query)

end TagTemplate.Island
