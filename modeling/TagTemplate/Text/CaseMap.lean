import TagTemplate.Text.CodePoint
import TagTemplate.Text.CaseTable

/-!
# Upper and lower case

The full case mappings of Unicode without locale: one character may become several, and a capital
sigma at the end of a word becomes the final sigma.
-/

namespace TagTemplate.Text

/-- The code point that a table of runs gives for `n`. -/
def runImage? (runs : List CaseRun) (n : Nat) : Option Nat :=
  (runs.find? fun r => r.first ≤ n && n ≤ r.last && (n - r.first) % r.stride == 0).map fun r =>
    ((n : Int) + r.distance).toNat

/-- The image of a character beyond ASCII under a case mapping. -/
def caseImage (runs : List CaseRun) (expansions : List (Nat × List Nat)) (c : Char) : List Char :=
  match expansions.lookup c.toNat with
  | some codes => codes.map Char.ofNat
  | none =>
    match runImage? runs c.toNat with
    | some code => [Char.ofNat code]
    | none => [c]

/-- A character in upper case. -/
def charUpper (c : Char) : List Char :=
  if c.toNat < 128 then [c.toUpper] else caseImage upperRuns upperExpansions c

/-- A character in lower case, wherever it stands. -/
def charLower (c : Char) : List Char :=
  if c.toNat < 128 then [c.toLower] else caseImage lowerRuns lowerExpansions c

/-- Text in upper case. -/
def upper (cs : List Char) : List Char := cs.flatMap charUpper

/-- The first character that counts for case is one with case. -/
def startsCased (cs : List Char) : Bool :=
  match cs.dropWhile (inRanges caseIgnorableRanges) with
  | [] => false
  | c :: _ => inRanges casedRanges c

/-- Text in lower case, given the characters before it, nearest first. -/
def lowerAfter (before : List Char) : List Char → List Char
  | [] => []
  | c :: cs =>
    let image :=
      if c = 'Σ' then [if startsCased before && !startsCased cs then 'ς' else 'σ']
      else charLower c
    image ++ lowerAfter (c :: before) cs

/-- Text in lower case. -/
def lower (cs : List Char) : List Char := lowerAfter [] cs

end TagTemplate.Text
