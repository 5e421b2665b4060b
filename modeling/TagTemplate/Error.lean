import TagTemplate.Expr.Problem

/-!
# Errors

Everything that can stop the engine, as causes. `Error.message` has the words. An error raised
while rendering is annotated once, with the innermost element that raised it (`Error.rendering`).
A `Fault` is no answer of the engine but a computation it gives up; nothing is annotated on it.
-/

namespace TagTemplate

/-- A computation that cannot be carried out. -/
inductive Fault where
  /-- The end of a window of text is beyond the 64-bit range. -/
  | windowOverflow
  /-- More decimals are asked for than a number can be written with. -/
  | tooManyDecimals
  /-- Elements are nested more deeply than the renderer goes. -/
  | tooDeep
  /-- A template names an element that it does not have. -/
  | missingNode
  deriving Repr, DecidableEq

/-- What stops the engine. -/
inductive Error where
  | io
  | fileNotFound (path : String)
  | malformed (problem : String) (line : Nat) (file : String)
  | requiredAttribute (tag name : String) (line : Nat) (file : String)
  | lexical (expression : String) (character : Char) (position : Nat)
  | unexpectedEnd (expression : String) (reason : Expr.OpenEnd)
  | evaluation (expression : String) (problem : Expr.Problem)
  | functionNotFound (name : String)
  | functionCall (name message : String)
  | feedNotFound (feed : String)
  | macroNotFound (name : String)
  | rendering (tag file : String) (line : Nat) (cause : Error)
  | includeDepth (file : String) (limit : Nat)
  | noTemplate
  | configParse
  | dataFile (path : String)
  | unsupportedFormat (format : String)
  | fault (fault : Fault)
  deriving Repr, DecidableEq

namespace Error

/-- The words an error is reported with; the empty text where they come from elsewhere. -/
def message : Error → String
  | io => ""
  | fileNotFound path => s!"file not found: `{path}`"
  | malformed problem line file => s!"malformed template `{file}` at line {line}: {problem}"
  | requiredAttribute tag name line file =>
    s!"missing required attribute `{name}` on <{tag}> ({file}, line {line})"
  | lexical expression character position =>
    s!"unexpected character `{character}` at position {position} in expression `{expression}`"
  | unexpectedEnd expression reason =>
    s!"unexpected end of expression `{expression}`: " ++ reason.message
  | evaluation expression problem => s!"cannot evaluate `{expression}`: " ++ problem.message
  | functionNotFound name => s!"unknown function: `{name}`"
  | functionCall name message => s!"function `{name}` failed: {message}"
  | feedNotFound feed => s!"no feed factory can create feed class `{feed}`"
  | macroNotFound name => s!"unknown macro: `{name}`"
  | rendering tag file line _ => s!"failed to render <{tag}> ({file}, line {line})"
  | includeDepth file limit => s!"includes nested deeper than {limit} levels at `{file}`"
  | noTemplate => "no template loaded"
  | configParse => ""
  | dataFile _ => ""
  | unsupportedFormat format => s!"unsupported data file format: `{format}`"
  | fault _ => ""

/-- Names the template file in an error raised before the file was known. -/
def withFile (file : String) : Error → Error
  | malformed problem line "" => malformed problem line file
  | requiredAttribute tag name line "" => requiredAttribute tag name line file
  | e => e

/-- The error under all annotations. -/
def rootCause : Error → Error
  | rendering _ _ _ cause => cause.rootCause
  | e => e

end Error

end TagTemplate
