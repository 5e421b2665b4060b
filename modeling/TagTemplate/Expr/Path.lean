import TagTemplate.Expr.Operator
import TagTemplate.Scope

/-!
# Paths

A path is a root and the names of the steps from it. The first step of a scoped path is looked up
through every layer; all others are members of the value before them. What is missing is null.
-/

namespace TagTemplate.Expr

/-- A root and the steps from it. -/
structure Path where
  root : Root
  steps : List String
  deriving Repr, DecidableEq

/-- Follows steps from a value that may be missing. -/
def walk (start : Option Value) (steps : List String) : Option Value :=
  steps.foldl (fun current step => current.bind (·.member? step)) start

/-- The value at a path. -/
def Path.resolve (scope : Scope) (path : Path) : Value :=
  let found := match path.root with
    | .absolute => walk (some (.map scope.base)) path.steps
    | .current => walk (some scope.top) path.steps
    | .parent => walk scope.parent? path.steps
    | .scoped =>
      match path.steps with
      | [] => none
      | first :: steps => walk (scope.lookup? first) steps
  found.getD .null

end TagTemplate.Expr
