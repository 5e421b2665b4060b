import TagTemplate.Expr.Scanner
import TagTemplate.FileStore
import TagTemplate.Render.Environment
import TagTemplate.Slots

/-!
# The state of a rendering

One state is shared by all templates of a rendering. `Rendering` computes over it; what it changes
stays changed when it fails. Layers, iterations, frames and include levels are only put on for the
time of an action (`during`, `withFrame`) and taken off again however the action ends.
-/

namespace TagTemplate

/-- An element registered under a name, with the template it stands in. -/
structure Macro where
  template : Template
  node : Nat
  deriving Repr, DecidableEq

/-- Attributes made while an element is rendered; none for one without a value. -/
abbrev Frame := OrderedMap (Option String)

/-- The state of a rendering. -/
structure RenderState where
  scope : Scope
  slots : Slots
  macros : OrderedMap Macro
  /-- The files of the named dictionaries. -/
  dictionaries : OrderedMap String
  /-- The iterations around, innermost first. -/
  iterations : List Iteration
  /-- The attributes made for the elements around, innermost first. -/
  frames : List Frame
  includeDepth : Nat
  doctype : Option String
  files : FileStore

/-- The state before the first element. -/
def RenderState.start (scope : Scope) (files : FileStore) : RenderState :=
  ⟨scope, .empty, .empty, .empty, [], [], 0, none, files⟩

/-- A computation over the state of a rendering that may fail. -/
abbrev Rendering := ExceptT Error (StateM RenderState)

namespace Rendering

/-- Does an action between a change of the state and another one that follows in any case. -/
def during {α : Type} (enter leave : RenderState → RenderState) (action : Rendering α) :
    Rendering α :=
  ExceptT.mk fun s =>
    let (result, s) := action.run (enter s)
    (result, leave s)

/-- Does an action with one more layer on the scope. -/
def withLayer {α : Type} (layer : Value) (action : Rendering α) : Rendering α :=
  during (fun s => { s with scope := s.scope.push layer })
    (fun s => { s with scope := s.scope.pop.2 }) action

/-- Does an action inside of an iteration. -/
def withIteration {α : Type} (iteration : Iteration) (action : Rendering α) : Rendering α :=
  during (fun s => { s with iterations := iteration :: s.iterations })
    (fun s => { s with iterations := s.iterations.tail }) action

/-- Does an action one include level deeper. -/
def withInclude {α : Type} (action : Rendering α) : Rendering α :=
  during (fun s => { s with includeDepth := s.includeDepth + 1 })
    (fun s => { s with includeDepth := s.includeDepth - 1 }) action

/-- Does an action that makes attributes; they are part of the answer. -/
def withFrame {α : Type} (action : Rendering α) : Rendering (α × Frame) :=
  ExceptT.mk fun s =>
    let (result, s) := action.run { s with frames := .empty :: s.frames }
    (result.map fun a => (a, s.frames.headD .empty), { s with frames := s.frames.tail })

/-- Sets a name of the universe. -/
def mount (name : String) (value : Value) : Rendering Unit :=
  modify fun s => { s with scope := s.scope.mount name value }

/-- Makes an attribute for the innermost element; outside of elements there is nothing to do. -/
def setAttribute (name : String) (value : Option String) : Rendering Unit :=
  modify fun s =>
    match s.frames with
    | frame :: frames => { s with frames := frame.insert name value :: frames }
    | [] => s

/-- The value of an expression. -/
def evaluate (env : Environment) (expression : String) : Rendering Value := do
  let s ← get
  liftExcept (Expr.evaluate ⟨s.scope, env.functions, s.iterations.head?⟩ expression)
where
  /-- The result of a computation without state. -/
  liftExcept (result : Except Error Value) : Rendering Value := ExceptT.mk (pure result)

/-- The text of the value of an expression. -/
def evaluateText (env : Environment) (expression : String) : Rendering String :=
  Value.output <$> evaluate env expression

/-- The truth of an expression; one that is not there is false. -/
def evaluateTruth (env : Environment) : Option String → Rendering Bool
  | some expression => Value.isTruthy <$> evaluate env expression
  | none => pure false

/-- An element of a template. -/
def nodeAt (template : Template) (id : Nat) : Rendering Node :=
  match template.tree.node? id with
  | some node => pure node
  | none => throw (.fault .missingNode)

end Rendering

end TagTemplate
