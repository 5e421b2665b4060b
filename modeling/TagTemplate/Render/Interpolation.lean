import TagTemplate.Render.State

/-!
# Expressions in attributes

An attribute may hold expressions between braces. The first closing brace ends an expression.
-/

namespace TagTemplate

/-- A piece of an attribute. -/
inductive Piece where
  | literal (text : List Char)
  | expression (text : List Char)
  /-- An opening brace that is never closed. -/
  | unclosed
  deriving Repr, DecidableEq

/-- The pieces of an attribute; each takes at least one character, so `fuel` is the text's
length. -/
def piecesFrom : Nat → List Char → List Piece
  | 0, _ => []
  | fuel + 1, cs =>
    let (text, rest) := cs.span fun c => c ≠ '\x7b'
    match rest with
    | [] => [.literal text]
    | _ :: inner =>
      let (expression, rest) := inner.span fun c => c ≠ '\x7d'
      match rest with
      | [] => [.literal text, .unclosed]
      | _ :: rest => .literal text :: .expression expression :: piecesFrom fuel rest

/-- The pieces of an attribute. -/
def pieces (raw : String) : List Piece := piecesFrom (raw.toList.length + 1) raw.toList

namespace Rendering

/-- The text of a piece of the attribute `raw`. -/
def renderPiece (env : Environment) (raw : String) : Piece → Rendering String
  | .literal text => pure (String.ofList text)
  | .expression text => evaluateText env (String.ofList text)
  | .unclosed => throw (.evaluation raw .unclosedBrace)

/-- An attribute with every expression replaced by the text of its value. -/
def interpolate (env : Environment) (raw : String) : Rendering String :=
  String.join <$> (pieces raw).mapM (renderPiece env raw)

end Rendering

end TagTemplate
