/-!
# The extent of a document type declaration

A declaration ends at the first `>` outside quotes. If it has an internal subset in square
brackets, the markup of the subset is skipped first, and the declaration ends at the first `>` after
the closing bracket. In the subset, comments and instructions have their own ends, declarations of
attributes, entities and notations end at the first `>` outside quotes, and all other markup ends at
the first `>`.
-/

namespace TagTemplate.Markup

/-- Where in a document type declaration a character stands. -/
inductive DoctypePlace where
  | head (quote : Option Char)
  | subset
  /-- After `<`. -/
  | opened
  /-- After `<!`. -/
  | openedBang
  /-- After `<!-`. -/
  | openedDash
  /-- In a comment, after up to two dashes. -/
  | comment (dashes : Nat)
  /-- In an instruction, after a question mark or not. -/
  | instruction (question : Bool)
  /-- In a declaration whose values may hold a `>`. -/
  | declaration (quote : Option Char)
  /-- In markup that ends at the first `>`. -/
  | plain
  | tail
  deriving Repr, DecidableEq

/-- The place after a character of a declaration in the subset. -/
def declarationStep (quote : Option Char) (c : Char) : DoctypePlace :=
  match quote with
  | some q => .declaration (if c = q then none else some q)
  | none =>
    if c = '>' then .subset
    else .declaration (if c = '\'' ∨ c = '"' then some c else none)

/-- The place after a character of markup that ends at the first `>`. -/
def plainStep (c : Char) : DoctypePlace := if c = '>' then .subset else .plain

/-- What the declarations with quoted values begin with, behind their `<`. -/
def quotedDeclarations : List (List Char) :=
  ["!ATTLIST".toList, "!ENTITY".toList, "!NOTATION".toList]

/-- The place behind a `<` in the subset. -/
def openMarkup (rest : List Char) : DoctypePlace :=
  if quotedDeclarations.any fun keyword => keyword.isPrefixOf rest then .declaration none
  else .opened

/-- The place after one more character with `rest` behind it, or `none` when the character ends the
declaration. -/
def DoctypePlace.step (place : DoctypePlace) (c : Char) (rest : List Char) : Option DoctypePlace :=
  match place with
  | .head (some q) => some (.head (if c = q then none else some q))
  | .head none =>
    if c = '>' then none
    else if c = '[' then some .subset
    else some (.head (if c = '\'' ∨ c = '"' then some c else none))
  | .subset => some (if c = ']' then .tail else if c = '<' then openMarkup rest else .subset)
  | .opened =>
    some (if c = '!' then .openedBang else if c = '?' then .instruction false
      else plainStep c)
  | .openedBang => some (if c = '-' then .openedDash else plainStep c)
  | .openedDash => some (if c = '-' then .comment 0 else plainStep c)
  | .comment dashes =>
    some (if c = '-' then .comment (min 2 (dashes + 1))
      else if c = '>' ∧ dashes = 2 then .subset else .comment 0)
  | .instruction question =>
    some (if c = '?' then .instruction true
      else if c = '>' ∧ question then .subset else .instruction false)
  | .declaration quote => some (declarationStep quote c)
  | .plain => some (plainStep c)
  | .tail => if c = '>' then none else some .tail

/-- The text up to the end of the declaration and the text after its `>`. -/
def breakDoctype? : DoctypePlace → List Char → Option (List Char × List Char)
  | _, [] => none
  | place, c :: cs =>
    match place.step c cs with
    | none => some ([], cs)
    | some next => (breakDoctype? next cs).map fun (before, after) => (c :: before, after)

end TagTemplate.Markup
