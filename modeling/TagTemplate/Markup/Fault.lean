/-!
# What can be wrong with markup

Causes, from a character reference up to the document, and the words each is reported with.
-/

namespace TagTemplate.Markup

/-- Why a numeric character reference stands for no character. -/
inductive ReferenceFault where
  | signed
  | empty
  | badDigit
  | tooLarge
  | notCodePoint (code : Nat)
  | zero
  deriving Repr, DecidableEq

/-- Why the attributes of a tag cannot be read. Positions count bytes from the start of the tag's
name; the ranges of entities count bytes in the attribute's value. -/
inductive AttributeFault where
  | noEquals (position : Nat)
  | noValue (position : Nat)
  | unquoted (position : Nat)
  | unclosedQuote (position : Nat) (quote : Char)
  | duplicate (position previous : Nat)
  | unknownEntity (first last : Nat) (name : String)
  | unterminated (first last : Nat)
  | badReference (fault : ReferenceFault)
  deriving Repr, DecidableEq

/-- Why a document cannot be cut into events. -/
inductive Fault where
  | unknownMarkup
  | unclosedInstruction
  | unclosedDeclaration
  | unclosedComment
  | unclosedDoctype
  | unclosedCData
  | unclosedTag
  | unclosedQuote (quote : Char)
  | namelessDoctype
  | unmatchedEnd (found : String)
  | mismatchedEnd (expected found : String)
  | unclosedReference
  deriving Repr, DecidableEq

/-- The report of a bad numeric reference. -/
def ReferenceFault.message : ReferenceFault → String
  | .signed => "unexpected number sign"
  | .empty => "cannot parse integer from empty string"
  | .badDigit => "invalid digit found in string"
  | .tooLarge => "number too large to fit in target type"
  | .notCodePoint code => s!"`{code}` is not a valid codepoint"
  | .zero => "0x0 character is not permitted in XML"

/-- The report of a bad attribute. -/
def AttributeFault.message : AttributeFault → String
  | .noEquals position =>
    s!"position {position}: attribute key must be directly followed by `=` or space"
  | .noValue position => s!"position {position}: `=` must be followed by an attribute value"
  | .unquoted position =>
    s!"position {position}: attribute value must be enclosed in `\"` or `'`"
  | .unclosedQuote position quote =>
    s!"position {position}: missing closing quote `{quote}` in attribute value"
  | .duplicate position previous =>
    s!"position {position}: duplicated attribute, previous declaration at position {previous}"
  | .unknownEntity first last name => s!"at {first}..{last}: unrecognized entity `{name}`"
  | .unterminated first last =>
    s!"Error while escaping character at range {first}..{last}: Cannot find ';' after '&'"
  | .badReference fault => "invalid character reference: " ++ fault.message

/-- A construct that the end of the input cuts off before its closing mark. -/
def unclosed (construct mark : String) : String :=
  s!"syntax error: {construct} not closed: `{mark}` not found before end of input"

/-- The report of a malformed document. -/
def Fault.message : Fault → String
  | .unknownMarkup => "syntax error: unknown or missed symbol in markup"
  | .unclosedInstruction => unclosed "processing instruction" "?>"
  | .unclosedDeclaration => unclosed "XML declaration" "?>"
  | .unclosedComment => unclosed "comment" "-->"
  | .unclosedDoctype => unclosed "DOCTYPE" ">"
  | .unclosedCData => unclosed "CDATA" "]]>"
  | .unclosedTag => unclosed "tag" ">"
  | .unclosedQuote quote => unclosed "attribute value" quote.toString
  | .namelessDoctype =>
    "ill-formed document: `<!DOCTYPE>` declaration does not contain a name of a document type"
  | .unmatchedEnd found =>
    s!"ill-formed document: close tag `</{found}>` does not match any open tag"
  | .mismatchedEnd expected found =>
    s!"ill-formed document: expected `</{expected}>`, but `</{found}>` was found"
  | .unclosedReference =>
    "ill-formed document: entity or character reference not closed: " ++
      "`;` not found before end of input"

end TagTemplate.Markup
