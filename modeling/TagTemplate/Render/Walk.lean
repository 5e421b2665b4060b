import TagTemplate.Number.Rounding
import TagTemplate.Number.Shortest
import TagTemplate.Render.State
import TagTemplate.Text.Blank

/-!
# Walking over values

A walk renders an element once per item of a value. What comes out is joined with the white space
that indents the element in its template.
-/

namespace TagTemplate

/-- The largest number of iterations over a number. -/
def longestWalk : Nat := 1000000

/-- The keys of a list: the positions from zero. -/
def indexed (items : List Value) : List (Value × Value) :=
  items.zipIdx.map fun (item, index) => (.number (Float.ofNat index), item)

/-- The numbers from one to a count, with the positions from zero as keys. -/
def counted (count : Nat) : List (Value × Value) :=
  indexed ((List.range count).map fun n => .number (Float.ofNat (n + 1)))

/-- The items that a walk over a value visits, each with its key. A number below one, and every
other value that is neither a collection nor a number, is visited itself if it is true. -/
def walkItems (value : Value) (expression : String) : Except Error (List (Value × Value)) :=
  let single : List (Value × Value) := if value.isTruthy then indexed [value] else []
  match value with
  | .list items => .ok (indexed items)
  | .map entries => .ok (entries.entries.map fun (key, item) => (.string key, item))
  | .number x =>
    if x.isNaN || x.isInf then .error (.evaluation expression .walkNotFinite)
    else if 1.0 ≤ x then
      if Float.ofNat longestWalk < x then
        .error (.evaluation expression (.walkTooLong (Number.display x) longestWalk))
      else .ok (counted (Number.toIndex x))
    else .ok single
  | _ => .ok single

/-- The white space in front of an element on its own line, line feed included. An element that does
not begin its line has none. -/
def indentation (precedingText : String) : String :=
  let (tail, rest) := precedingText.toList.reverse.span fun c => c ≠ '\n'
  if rest.isEmpty || !Text.allBlank tail then "" else String.ofList ('\n' :: tail.reverse)

/-- Puts the output of an iteration behind the text so far. The flag tells whether anything was put
out before: then the indentation goes in between. Nothing is done for an output that is empty. -/
def emit (indent : String) (emitted : String × Bool) (output : String) : String × Bool :=
  let (text, renderedAny) := emitted
  if output = "" then (text, renderedAny)
  else if renderedAny then (text ++ indent ++ output, true)
  else (text ++ output, true)

/-- The text of all outputs of a walk. -/
def joinIndented (indent : String) (outputs : List String) : String :=
  (outputs.foldl (emit indent) ("", false)).1

namespace Rendering

/-- Does an action for every item; `count` is the number of all, `position` that of the first. -/
def forItems (action : Rendering String) (count : Nat) :
    Nat → List (Value × Value) → Rendering (List String)
  | _, [] => pure []
  | position, (key, item) :: items => do
    let output ← withLayer item (withIteration ⟨position, count, key⟩ action)
    let outputs ← forItems action count (position + 1) items
    pure (output :: outputs)

/-- Renders an element once per item of a value. -/
def renderWalk (env : Environment) (action : Rendering String) (node : Node) (expression : String) :
    Rendering String := do
  let value ← evaluate env expression
  let items ← ExceptT.mk (pure (walkItems value expression))
  let outputs ← forItems action items.length 1 items
  pure (joinIndented (indentation node.precedingText) outputs)

end Rendering

end TagTemplate
