import TagTemplate.Proofs.Template.Folding

/-!
# Templates that are alike

Two lists of children are alike when they differ only in how much of what does not depend on data is
written out as text already. A template and the folded one are alike.

- `Inert`: children without anything that depends on data, and the text they come to;
- `Alike`: children that are alike, with bounds on how deeply inert elements are nested on each
  side;
- `Template.FoldsTo.alike`: **a template is like the folded one**.
-/

namespace TagTemplate

/-- Nothing among the children depends on data, and `text` is what they come to. Elements are nested
at most `depth` deep. -/
inductive Inert (nodes : List Node) : Nat → List Child → String → Prop
  | nil {depth : Nat} : Inert nodes depth [] ""
  | text {depth : Nat} {content text : String} {children : List Child} :
      Inert nodes depth children text →
      Inert nodes depth (.text content :: children) (content ++ text)
  | node {depth i : Nat} {head : Head} {inside children : List Child} {parent : Option Nat}
      {body text : String} :
      nodes[i]? = some (head.node inside parent) → head.isInert = true →
      Inert nodes depth inside body → Inert nodes (depth + 1) children text →
      Inert nodes (depth + 1) (.node i :: children) (head.written body ++ text)

/-- The children differ only in how much of what is inert is written out as text. -/
inductive Alike (nodes₁ nodes₂ : List Node) (depth₁ depth₂ : Nat) : List Child → List Child → Prop
  | done {children₁ children₂ : List Child} {text : String} :
      Inert nodes₁ depth₁ children₁ text → Inert nodes₂ depth₂ children₂ text →
      Alike nodes₁ nodes₂ depth₁ depth₂ children₁ children₂
  | live {before₁ before₂ inside₁ inside₂ after₁ after₂ : List Child} {text : String} {i₁ i₂ : Nat}
      {head : Head} {parent₁ parent₂ : Option Nat} :
      Inert nodes₁ depth₁ before₁ text → Inert nodes₂ depth₂ before₂ text →
      nodes₁[i₁]? = some (head.node inside₁ parent₁) →
      nodes₂[i₂]? = some (head.node inside₂ parent₂) → parent₁.isNone = parent₂.isNone →
      Alike nodes₁ nodes₂ depth₁ depth₂ inside₁ inside₂ →
      Alike nodes₁ nodes₂ depth₁ depth₂ after₁ after₂ →
      Alike nodes₁ nodes₂ depth₁ depth₂ (before₁ ++ .node i₁ :: after₁)
        (before₂ ++ .node i₂ :: after₂)

namespace Inert

variable {nodes : List Node} {depth : Nat} {children : List Child} {text : String}

theorem mono {deeper : Nat} (h : Inert nodes depth children text) (hle : depth ≤ deeper) :
    Inert nodes deeper children text := by
  induction h generalizing deeper with
  | nil => exact .nil
  | text _ ih => exact .text (ih hle)
  | node hnode hinert _ _ ihin ihrest =>
    obtain ⟨deeper, rfl⟩ : ∃ d, deeper = d + 1 := ⟨deeper - 1, by omega⟩
    exact .node hnode hinert (ihin (by omega)) (ihrest hle)

theorem append {more : List Child} {text' : String} (h : Inert nodes depth children text)
    (hmore : Inert nodes depth more text') :
    Inert nodes depth (children ++ more) (text ++ text') := by
  induction h with
  | nil =>
    rw [String.empty_append]
    exact hmore
  | text _ ih =>
    rw [String.append_assoc]
    exact .text (ih hmore)
  | node hnode hinert hin _ _ ih =>
    rw [String.append_assoc]
    exact .node hnode hinert hin (ih hmore)

end Inert

/-- Text in front of children; a text at their start continues it. -/
def prependText (content : String) : List Child → List Child
  | .text more :: children => .text (content ++ more) :: children
  | children => .text content :: children

theorem Inert.prependText {nodes : List Node} {depth : Nat} {children : List Child} {text : String}
    (h : Inert nodes depth children text) (content : String) :
    Inert nodes depth (prependText content children) (content ++ text) := by
  cases h with
  | nil => exact .text .nil
  | text hrest =>
    rw [← String.append_assoc]
    exact .text hrest
  | node hnode hinert hin hrest => exact .text (.node hnode hinert hin hrest)

namespace Alike

variable {nodes₁ nodes₂ : List Node} {depth₁ depth₂ : Nat} {children₁ children₂ : List Child}

theorem symm (h : Alike nodes₁ nodes₂ depth₁ depth₂ children₁ children₂) :
    Alike nodes₂ nodes₁ depth₂ depth₁ children₂ children₁ := by
  induction h with
  | done h₁ h₂ => exact .done h₂ h₁
  | live h₁ h₂ hnode₁ hnode₂ hparent _ _ ihin ihrest =>
    exact .live h₂ h₁ hnode₂ hnode₁ hparent.symm ihin ihrest

theorem mono {deeper₁ deeper₂ : Nat} (h : Alike nodes₁ nodes₂ depth₁ depth₂ children₁ children₂)
    (hle₁ : depth₁ ≤ deeper₁) (hle₂ : depth₂ ≤ deeper₂) :
    Alike nodes₁ nodes₂ deeper₁ deeper₂ children₁ children₂ := by
  induction h with
  | done h₁ h₂ => exact .done (h₁.mono hle₁) (h₂.mono hle₂)
  | live h₁ h₂ hnode₁ hnode₂ hparent _ _ ihin ihrest =>
    exact .live (h₁.mono hle₁) (h₂.mono hle₂) hnode₁ hnode₂ hparent ihin ihrest

/-- An element in front on both sides. -/
theorem cons {inside₁ inside₂ : List Child} {i₁ i₂ : Nat} {head : Head}
    {parent₁ parent₂ : Option Nat}
    (hin : Alike nodes₁ nodes₂ depth₁ depth₂ inside₁ inside₂)
    (hrest : Alike nodes₁ nodes₂ depth₁ depth₂ children₁ children₂)
    (hnode₁ : nodes₁[i₁]? = some (head.node inside₁ parent₁))
    (hnode₂ : nodes₂[i₂]? = some (head.node inside₂ parent₂))
    (hparent : parent₁.isNone = parent₂.isNone) :
    Alike nodes₁ nodes₂ depth₁ depth₂ (.node i₁ :: children₁) (.node i₂ :: children₂) := by
  have hnil₁ : Inert nodes₁ depth₁ [] "" := .nil
  have hnil₂ : Inert nodes₂ depth₂ [] "" := .nil
  exact .live hnil₁ hnil₂ hnode₁ hnode₂ hparent hin hrest

/-- What is inert on the first side may be text in front of the second. -/
theorem prependText {before : List Child} {text : String}
    (hbefore : Inert nodes₁ depth₁ before text)
    (h : Alike nodes₁ nodes₂ depth₁ depth₂ children₁ children₂) :
    Alike nodes₁ nodes₂ depth₁ depth₂ (before ++ children₁) (prependText text children₂) := by
  cases h with
  | done h₁ h₂ => exact .done (hbefore.append h₁) (h₂.prependText text)
  | @live before₁ before₂ _ _ _ _ _ i₁ i₂ _ _ _ h₁ h₂ hnode₁ hnode₂ hparent hin hrest =>
    have hfirst : ∀ after, TagTemplate.prependText text (before₂ ++ .node i₂ :: after) =
        TagTemplate.prependText text before₂ ++ .node i₂ :: after := by
      intro after
      cases before₂ with
      | nil => rfl
      | cons c cs => cases c <;> rfl
    rw [hfirst, ← List.append_assoc]
    exact .live (hbefore.append h₁) (h₂.prependText text) hnode₁ hnode₂ hparent hin hrest

end Alike

/-! ## A forest and the folded one -/

theorem Forest.isText_prependText (content : String) (f : Forest) :
    (f.prependText content).isText = f.isText := by
  cases f <;> rfl

theorem Forest.ownText_prependText (content : String) (f : Forest) :
    (f.prependText content).ownText = content ++ f.ownText := by
  cases f with
  | nil => rfl
  | text first rest => exact String.append_assoc ..
  | element => rfl

namespace Reads

variable {nodes nodes₁ nodes₂ : List Node} {parent : Option Nat} {i j : Nat} {children : List Child}
  {forest : Forest}

/-- Elements are not nested more deeply than there are elements. -/
theorem height_le (h : Reads nodes parent i children forest j) : forest.height ≤ j - i := by
  induction h with
  | nil => exact Nat.zero_le _
  | text _ ih => exact ih
  | node _ hin hrest ihin ihrest =>
    have hle := hin.le
    have hle' := hrest.le
    exact Nat.max_le.2 ⟨by omega, by omega⟩

theorem of_prependText {content : String}
    (h : Reads nodes parent i children (forest.prependText content) j) :
    ∃ children', children = prependText content children' ∧
      Reads nodes parent i children' forest j := by
  cases forest with
  | nil =>
    cases h with
    | text hrest =>
      cases hrest
      exact ⟨[], rfl, .nil⟩
  | text first rest =>
    cases h with
    | text hrest => exact ⟨_, rfl, .text hrest⟩
  | element head kids rest =>
    cases h with
    | text hrest =>
      refine ⟨_, ?_, hrest⟩
      cases hrest
      rfl

/-- What folds to text is inert. -/
theorem inert (h : Reads nodes parent i children forest j) (htext : forest.fold.isText = true)
    {depth : Nat} (hdepth : forest.height ≤ depth) :
    Inert nodes depth children forest.fold.ownText := by
  induction h generalizing depth with
  | nil => exact .nil
  | text _ ih =>
    rw [Forest.fold, Forest.isText_prependText] at htext
    rw [Forest.fold, Forest.ownText_prependText]
    exact .text (ih htext hdepth)
  | @node parent i j k head inside children kids rest hnode hin hrest ihin ihrest =>
    rw [Forest.fold] at htext ⊢
    split at htext
    · rename_i hfolds
      rw [if_pos hfolds]
      rw [Forest.isText_prependText] at htext
      rw [Forest.ownText_prependText]
      obtain ⟨hinert, hkids⟩ := (Bool.and_eq_true _ _).mp hfolds
      have hheight := Nat.max_le.1 hdepth
      obtain ⟨depth, rfl⟩ : ∃ d, depth = d + 1 := ⟨depth - 1, by omega⟩
      exact .node hnode hinert (ihin hkids (by omega)) (ihrest htext hheight.2)
    · cases htext

/-- **Children are like the children that they fold to.** -/
theorem alike {p₁ p₂ : Option Nat} {i₁ j₁ i₂ j₂ : Nat} {children₁ children₂ : List Child}
    (h₁ : Reads nodes₁ p₁ i₁ children₁ forest j₁) (h₂ : Reads nodes₂ p₂ i₂ children₂ forest.fold j₂)
    (hparent : p₁.isNone = p₂.isNone) {depth : Nat} (hdepth : forest.height ≤ depth) :
    Alike nodes₁ nodes₂ depth 0 children₁ children₂ := by
  induction h₁ generalizing p₂ i₂ j₂ children₂ depth with
  | nil =>
    cases h₂
    exact .done .nil .nil
  | @text parent i j content children rest _ ih =>
    obtain ⟨children', rfl, hrest⟩ := h₂.of_prependText
    -- a text stays, or continues the text that was folded in front of it
    have hbefore : Inert nodes₁ depth [.text content] (content ++ "") := .text .nil
    rw [String.append_empty] at hbefore
    exact Alike.prependText hbefore (ih hrest hparent hdepth)
  | @node parent i j k head inside children kids rest hnode hin hrest ihin ihrest =>
    have hheight := Nat.max_le.1 hdepth
    rw [Forest.fold] at h₂
    split at h₂
    -- the element was folded: it is inert on the first side and text on the second
    · rename_i hfolds
      obtain ⟨hinert, hkids⟩ := (Bool.and_eq_true _ _).mp hfolds
      obtain ⟨children', rfl, hrest₂⟩ := h₂.of_prependText
      obtain ⟨inner, rfl⟩ : ∃ d, depth = d + 1 := ⟨depth - 1, by omega⟩
      have hbefore : Inert nodes₁ (inner + 1) [.node i] (head.written kids.fold.ownText ++ "") :=
        .node hnode hinert (hin.inert hkids (by omega)) .nil
      rw [String.append_empty] at hbefore
      exact Alike.prependText hbefore (ihrest hrest₂ hparent hheight.2)
    · cases h₂ with
      | node hnode₂ hin₂ hrest₂ =>
        have hin' := ihin hin₂ rfl (show kids.height ≤ depth by omega)
        have hrest' := ihrest hrest₂ hparent hheight.2
        exact hin'.cons hrest' hnode hnode₂ hparent

end Reads

/-- Templates that are alike. -/
structure Template.Alike (depth₁ depth₂ : Nat) (t₁ t₂ : Template) : Prop where
  sourcePath : t₁.sourcePath = t₂.sourcePath
  nsPrefix : t₁.nsPrefix = t₂.nsPrefix
  transSource : t₁.transSource = t₂.transSource
  root : TagTemplate.Alike t₁.tree.nodes t₂.tree.nodes depth₁ depth₂ t₁.tree.root.toList
    t₂.tree.root.toList

theorem Template.Alike.symm {depth₁ depth₂ : Nat} {t₁ t₂ : Template}
    (h : Template.Alike depth₁ depth₂ t₁ t₂) : Template.Alike depth₂ depth₁ t₂ t₁ :=
  ⟨h.sourcePath.symm, h.nsPrefix.symm, h.transSource.symm, h.root.symm⟩

theorem Template.Alike.mono {depth₁ depth₂ deeper₁ deeper₂ : Nat} {t₁ t₂ : Template}
    (h : Template.Alike depth₁ depth₂ t₁ t₂) (hle₁ : depth₁ ≤ deeper₁) (hle₂ : depth₂ ≤ deeper₂) :
    Template.Alike deeper₁ deeper₂ t₁ t₂ :=
  ⟨h.sourcePath, h.nsPrefix, h.transSource, h.root.mono hle₁ hle₂⟩

/-- **A template is like the folded one.** -/
theorem Template.FoldsTo.alike {plain folded : Template} (h : plain.FoldsTo folded) {depth : Nat}
    (hdepth : plain.tree.nodes.length ≤ depth) : Template.Alike depth 0 plain folded := by
  obtain ⟨hpath, hprefix, htrans, forest, c₁, c₂, hroot₁, hroot₂, hreads₁, hreads₂⟩ := h
  refine ⟨hpath, hprefix, htrans, ?_⟩
  have hheight := hreads₁.height_le
  rw [hroot₁, hroot₂]
  exact hreads₁.alike hreads₂ rfl (by omega)

end TagTemplate
