/-!
# Searching and measuring text

`breakOn?` cuts text at the first occurrence of a pattern, `byteLength` measures text in the bytes
of its UTF-8 form and `takeBytes?` cuts it at one of them.
-/

namespace TagTemplate.Text

/-- The number of bytes that text takes in UTF-8. -/
def byteLength (cs : List Char) : Nat := cs.foldr (fun c bytes => c.utf8Size + bytes) 0

/-- The text before and after the first occurrence of `pattern`. -/
def breakOn? (pattern : List Char) : List Char → Option (List Char × List Char)
  | [] => if pattern.isEmpty then some ([], []) else none
  | c :: cs =>
    match pattern.isPrefixOf? (c :: cs) with
    | some rest => some ([], rest)
    | none => (breakOn? pattern cs).map fun (before, after) => (c :: before, after)

/-- Text without `ending` at its end, if it has that ending. -/
def dropEnding? (ending cs : List Char) : Option (List Char) :=
  (ending.reverse.isPrefixOf? cs.reverse).map List.reverse

/-- The text before byte `bytes`, if a character ends there. -/
def takeBytes? : Nat → List Char → Option (List Char)
  | 0, _ => some []
  | _ + 1, [] => none
  | bytes, c :: cs =>
    if c.utf8Size ≤ bytes then (takeBytes? (bytes - c.utf8Size) cs).map (c :: ·) else none

/-- Text without the characters that lie within its first bytes. -/
def dropWithin : Nat → List Char → List Char
  | _, [] => []
  | bytes, c :: cs =>
    if c.utf8Size ≤ bytes then dropWithin (bytes - c.utf8Size) cs else c :: cs

/-- What follows `start` in a text that begins with it. -/
def afterStart? (start text : String) : Option String :=
  (start.toList.isPrefixOf? text.toList).map String.ofList

/-- The text begins with `start`. -/
def beginsWith (start text : String) : Bool := (afterStart? start text).isSome

/-- The text has `part` somewhere in it. -/
def contains (part text : String) : Bool := (breakOn? part.toList text.toList).isSome

/-- Text without a byte order mark at its start. -/
def dropByteOrderMark : List Char → List Char
  | '\uFEFF' :: cs => cs
  | cs => cs

/-- The number of line feeds among the characters whose first byte lies in `[first, last)`; the
text itself begins at byte `position`. -/
def newlinesIn (first last position : Nat) : List Char → Nat
  | [] => 0
  | c :: cs =>
    (if c = '\n' ∧ first ≤ position ∧ position < last then 1 else 0) +
      newlinesIn first last (position + c.utf8Size) cs

@[simp] theorem byteLength_nil : byteLength [] = 0 := rfl

@[simp] theorem byteLength_cons (c : Char) (cs : List Char) :
    byteLength (c :: cs) = c.utf8Size + byteLength cs := rfl

@[simp] theorem byteLength_append (cs ds : List Char) :
    byteLength (cs ++ ds) = byteLength cs + byteLength ds := by
  induction cs with
  | nil => simp
  | cons c cs ih => simp [ih, Nat.add_assoc]

end TagTemplate.Text
