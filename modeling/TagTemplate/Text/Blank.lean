import TagTemplate.Text.CodePoint

/-!
# White space

`isBlank` is the Unicode property White_Space; `trim` cuts such characters off both ends.
`isMarkupBlank` is the much smaller class that separates the parts of a tag.
-/

namespace TagTemplate.Text

/-- The code points with the property White_Space. -/
def blankRanges : List (Nat × Nat) :=
  [(0x9, 0xD), (0x20, 0x20), (0x85, 0x85), (0xA0, 0xA0), (0x1680, 0x1680), (0x2000, 0x200A),
   (0x2028, 0x2029), (0x202F, 0x202F), (0x205F, 0x205F), (0x3000, 0x3000)]

/-- The character is white space. -/
def isBlank (c : Char) : Bool := inRanges blankRanges c

/-- Every character is white space. -/
def allBlank (cs : List Char) : Bool := cs.all isBlank

/-- Text without the white space at its start. -/
def trimStart (cs : List Char) : List Char := cs.dropWhile isBlank

/-- Text without the white space at its end. -/
def trimEnd (cs : List Char) : List Char := (cs.reverse.dropWhile isBlank).reverse

/-- Text without the white space at either end. -/
def trim (cs : List Char) : List Char := trimEnd (trimStart cs)

/-- Cuts text into the words between white space; `word` is the one begun, last character first. -/
def wordsFrom (word : List Char) : List Char → List (List Char)
  | [] => if word.isEmpty then [] else [word.reverse]
  | c :: cs =>
    if isBlank c then (if word.isEmpty then wordsFrom [] cs else word.reverse :: wordsFrom [] cs)
    else wordsFrom (c :: word) cs

/-- The words of a text. -/
def words (cs : List Char) : List (List Char) := wordsFrom [] cs

/-- Space, tab, carriage return or line feed: what separates the parts of a tag. -/
def isMarkupBlank (c : Char) : Bool := c = ' ' || c = '\t' || c = '\r' || c = '\n'

end TagTemplate.Text
