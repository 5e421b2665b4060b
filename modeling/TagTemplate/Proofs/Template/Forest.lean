import TagTemplate.Template.Builder

/-!
# Documents as forests

A `Forest` is what stands inside an element: texts and elements in order. Folding replaces every
element in which nothing depends on data by its own text.

- `Head`: what an element says of itself; its attributes have distinct names;
- `Forest.appendText`, `Forest.snoc`: text or an element put behind all others;
- `Forest.fold`: the forest with every inert element replaced by its text;
- `fold_appendText`, `fold_snoc`: folding piece by piece comes to the same;
- `Forest.join`: a forest put behind another one.
-/

namespace TagTemplate

/-- What an element says of itself, apart from its children and its place. -/
structure Head where
  tag : String
  nsPrefix : String
  attributes : OrderedMap String
  selfClosing : Bool
  line : Nat
  precedingText : String
  directive : Option Directive
  distinct : attributes.Distinct

namespace Head

/-- The element with children at a place. -/
def node (h : Head) (children : List Child) (parent : Option Nat) : Node :=
  ⟨h.tag, h.nsPrefix, h.attributes, children, h.selfClosing, h.line, parent, h.precedingText,
    h.directive⟩

/-- Nothing in the element itself depends on data. -/
def isInert (h : Head) : Bool :=
  h.directive.isNone
    && !h.attributes.keys.any (Text.beginsWith h.nsPrefix)
    && !h.attributes.values.any fun value => value.toList.contains '\x7b'

/-- The element written out around a body. -/
def written (h : Head) (body : String) : String :=
  let attributes := writtenAttributes (h.node [] none).plainAttributes
  if Text.beginsWith h.nsPrefix h.tag then body
  else if h.selfClosing ∧ body = "" then s!"<{h.tag}{attributes}/>"
  else s!"<{h.tag}{attributes}>{body}</{h.tag}>"

end Head

/-- Texts and elements in order. -/
inductive Forest where
  | nil
  | text (content : String) (rest : Forest)
  | element (head : Head) (kids rest : Forest)

namespace Forest

/-- There is no element. -/
def isText : Forest → Bool
  | nil => true
  | text _ rest => rest.isText
  | element .. => false

/-- There is nothing at all. -/
def isNil : Forest → Bool
  | nil => true
  | _ => false

/-- The texts outside of all elements. -/
def ownText : Forest → String
  | nil => ""
  | text content rest => content ++ rest.ownText
  | element _ _ rest => rest.ownText

/-- Text put behind; it continues a text at the end. -/
def appendText : Forest → String → Forest
  | nil, more => text more nil
  | text content nil, more => text (content ++ more) nil
  | text content rest, more => text content (rest.appendText more)
  | element head kids rest, more => element head kids (rest.appendText more)

/-- Text put in front; a text at the start continues it. -/
def prependText (more : String) : Forest → Forest
  | text content rest => text (more ++ content) rest
  | rest => text more rest

/-- An element put behind. -/
def snoc : Forest → Head → Forest → Forest
  | nil, head, kids => element head kids nil
  | text content rest, head, kids => text content (rest.snoc head kids)
  | element first inside rest, head, kids => element first inside (rest.snoc head kids)

/-- Every element in which nothing depends on data replaced by its text. -/
def fold : Forest → Forest
  | nil => nil
  | text content rest => rest.fold.prependText content
  | element head kids rest =>
    if head.isInert && kids.fold.isText then rest.fold.prependText (head.written kids.fold.ownText)
    else element head kids.fold rest.fold

/-- How deeply elements are nested. -/
def height : Forest → Nat
  | nil => 0
  | text _ rest => rest.height
  | element _ kids rest => max (kids.height + 1) rest.height

/-- An element put behind, folded if nothing in it depends on data. -/
def snocFolded (f : Forest) (head : Head) (kids : Forest) : Forest :=
  if head.isInert && kids.isText then f.appendText (head.written kids.ownText) else f.snoc head kids

/-! ## Folding piece by piece -/

theorem appendText_text_of_ne_nil {content more : String} {rest : Forest} (h : rest ≠ nil) :
    (text content rest).appendText more = text content (rest.appendText more) := by
  cases rest with
  | nil => exact absurd rfl h
  | text => rfl
  | element => rfl

theorem prependText_ne_nil (content : String) (f : Forest) : f.prependText content ≠ nil := by
  cases f <;> exact nofun

theorem prependText_appendText (content : String) (f : Forest) (more : String) :
    (f.appendText more).prependText content = (f.prependText content).appendText more := by
  cases f with
  | nil => rfl
  | text first rest =>
    cases rest with
    | nil =>
      show text (content ++ (first ++ more)) nil = text (content ++ first ++ more) nil
      rw [String.append_assoc]
    | text => rfl
    | element => rfl
  | element => rfl

theorem prependText_snoc (content : String) (f : Forest) (head : Head) (kids : Forest) :
    (f.snoc head kids).prependText content = (f.prependText content).snoc head kids := by
  cases f <;> rfl

/-- Text behind a forest stays text behind the folded one. -/
theorem fold_appendText (f : Forest) (more : String) :
    (f.appendText more).fold = f.fold.appendText more := by
  induction f with
  | nil => rfl
  | text content rest ih =>
    -- text continues the text at the end, so the last text is a case of its own
    by_cases hrest : rest = nil
    · subst hrest
      rfl
    · rw [appendText_text_of_ne_nil hrest, fold, ih, prependText_appendText, ← fold]
  | element head kids rest _ ih =>
    rw [appendText, fold, fold]
    split
    · rw [ih, prependText_appendText]
    · rw [ih, appendText]

/-- An element behind a forest is folded on its own. -/
theorem fold_snoc (f : Forest) (head : Head) (kids : Forest) :
    (f.snoc head kids).fold = f.fold.snocFolded head kids.fold := by
  unfold snocFolded
  induction f with
  | nil =>
    rw [snoc, fold]
    rfl
  | text content rest ih =>
    rw [snoc, fold, ih, fold]
    split
    · rw [prependText_appendText]
    · rw [prependText_snoc]
  | element first inside rest _ ih =>
    rw [snoc, fold, ih, fold]
    split <;> split
    · rw [prependText_appendText]
    · rw [prependText_snoc]
    · rw [appendText]
    · rw [snoc]

theorem isNil_fold (f : Forest) : f.fold.isNil = f.isNil := by
  cases f with
  | nil => rfl
  | text content rest =>
    rw [fold]
    cases h : rest.fold.prependText content with
    | nil => exact absurd h (prependText_ne_nil _ _)
    | text => rfl
    | element => rfl
  | element head kids rest =>
    rw [fold]
    split
    · cases h : rest.fold.prependText (head.written kids.fold.ownText) with
      | nil => exact absurd h (prependText_ne_nil _ _)
      | text => rfl
      | element => rfl
    · rfl

/-! ## Forests one behind the other -/

/-- A forest put behind another one; where text meets text, they are one. -/
def join : Forest → Forest → Forest
  | nil, g => g
  | text content nil, g => g.prependText content
  | text content rest, g => text content (rest.join g)
  | element head kids rest, g => element head kids (rest.join g)

theorem join_text_of_ne_nil {content : String} (h : f ≠ nil) (g : Forest) :
    (text content f).join g = text content (f.join g) := by
  cases f with
  | nil => exact absurd rfl h
  | text => rfl
  | element => rfl

theorem appendText_ne_nil (f : Forest) (more : String) : f.appendText more ≠ nil := by
  cases f with
  | nil => exact nofun
  | text content rest => cases rest <;> exact nofun
  | element => exact nofun

theorem snoc_ne_nil (f : Forest) (head : Head) (kids : Forest) : f.snoc head kids ≠ nil := by
  cases f <;> exact nofun

theorem prependText_prependText (first second : String) (f : Forest) :
    (f.prependText second).prependText first = f.prependText (first ++ second) := by
  cases f with
  | nil => rfl
  | text content rest =>
    show text (first ++ (second ++ content)) rest = text (first ++ second ++ content) rest
    rw [String.append_assoc]
  | element => rfl

theorem isNil_prependText (content : String) (f : Forest) :
    (f.prependText content).isNil = false := by
  cases f <;> rfl

theorem join_nil (f : Forest) : f.join nil = f := by
  induction f with
  | nil => rfl
  | text content rest ih =>
    by_cases hrest : rest = nil
    · subst hrest
      rfl
    · rw [join_text_of_ne_nil hrest, ih]
  | element head kids rest _ ih => rw [join, ih]

/-- Text between two forests goes with the second as well as with the first. -/
theorem join_appendText (f : Forest) (content : String) (g : Forest) :
    (f.appendText content).join g = f.join (g.prependText content) := by
  induction f with
  | nil => rfl
  | text first rest ih =>
    by_cases hrest : rest = nil
    · subst hrest
      exact (prependText_prependText first content g).symm
    · rw [appendText_text_of_ne_nil hrest, join_text_of_ne_nil (appendText_ne_nil rest content),
        join_text_of_ne_nil hrest, ih]
  | element head kids rest _ ih => rw [appendText, join, join, ih]

/-- An element between two forests goes with the second as well as with the first. -/
theorem join_snoc (f : Forest) (head : Head) (kids g : Forest) :
    (f.snoc head kids).join g = f.join (element head kids g) := by
  induction f with
  | nil => rfl
  | text content rest ih =>
    rw [snoc, join_text_of_ne_nil (snoc_ne_nil rest head kids), ih]
    by_cases hrest : rest = nil
    · subst hrest
      rfl
    · rw [join_text_of_ne_nil hrest]
  | element first inside rest _ ih => rw [snoc, join, join, ih]

end Forest

end TagTemplate
