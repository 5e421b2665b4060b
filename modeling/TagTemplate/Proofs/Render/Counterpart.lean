import TagTemplate.Proofs.Render.Directives
import TagTemplate.Proofs.Render.Inert

/-!
# Templates that are alike, rendered beside each other

Two templates that are alike differ in how much of them is text. Their elements are counterparts,
and render to the same unless the first rendering goes too deep.

- `Counterparts`: an element and one in a template that is alike;
- `Paired`: renderers for the elements inside that render counterparts beside each other, and what
  is inert to its text;
- `matches_renderChildren`: **children that are alike render to the same**;
- `Included`: the templates that the files hold, read in both ways;
- `paired_renderNode`: **counterparts render to the same**, by induction on how deep the first
  renderer goes.
-/

namespace TagTemplate

/-- Two elements that differ only in their places and in how much of what is inside is text. -/
structure Node.Alike (depth₁ depth₂ : Nat) (nodes₁ nodes₂ : List Node) (n₁ n₂ : Node) : Prop where
  same : { n₁ with children := [], parent := none } = { n₂ with children := [], parent := none }
  isOutermost : n₁.parent.isNone = n₂.parent.isNone
  children : TagTemplate.Alike nodes₁ nodes₂ depth₁ depth₂ n₁.children n₂.children

namespace Node.Alike

variable {depth₁ depth₂ : Nat} {nodes₁ nodes₂ : List Node} {n₁ n₂ : Node}
  (h : Node.Alike depth₁ depth₂ nodes₁ nodes₂ n₁ n₂)

include h

theorem tag : n₁.tag = n₂.tag := (congrArg Node.tag h.same :)

theorem selfClosing : n₁.selfClosing = n₂.selfClosing := (congrArg Node.selfClosing h.same :)

theorem line : n₁.line = n₂.line := (congrArg Node.line h.same :)

theorem precedingText : n₁.precedingText = n₂.precedingText :=
  (congrArg Node.precedingText h.same :)

theorem directive : n₁.directive = n₂.directive := (congrArg Node.directive h.same :)

theorem attributes : n₁.attributes = n₂.attributes := (congrArg Node.attributes h.same :)

theorem isNamespaced : n₁.isNamespaced = n₂.isNamespaced := (congrArg Node.isNamespaced h.same :)

theorem plainAttributes : n₁.plainAttributes = n₂.plainAttributes :=
  (congrArg Node.plainAttributes h.same :)

theorem directiveAttribute? (name : String) :
    n₁.directiveAttribute? name = n₂.directiveAttribute? name :=
  (congrArg (Node.directiveAttribute? · name) h.same :)

theorem attribute? (name : String) : n₁.attribute? name = n₂.attribute? name :=
  congrArg (OrderedMap.get? · name) h.attributes

end Node.Alike

/-- An element of a template and one of another that is alike. -/
structure Counterparts (depth₁ depth₂ : Nat) (t₁ t₂ : Template) (i₁ i₂ : Nat) : Prop where
  sourcePath : t₁.sourcePath = t₂.sourcePath
  transSource : t₁.transSource = t₂.transSource
  nodes : ∃ n₁ n₂, t₁.tree.node? i₁ = some n₁ ∧ t₂.tree.node? i₂ = some n₂ ∧
    Node.Alike depth₁ depth₂ t₁.tree.nodes t₂.tree.nodes n₁ n₂

/-- Templates that are alike are rendered to equal results, from the same files. -/
def alikePairing (files : FileStore) (depth₁ depth₂ : Nat) : Pairing where
  counterparts := Counterparts depth₁ depth₂
  files := (· = files)
  error := Eq
  error_refl _ _ := rfl
  stops := (· = Rendering.tooDeep)

namespace Rendering

variable {files : FileStore} {depth₁ depth₂ : Nat} {t₁ t₂ : Template} {self₁ self₂ : NodeRenderer}

/-- Renderers for the elements inside: counterparts are rendered beside each other, and what is
inert comes to its text. Only the first renderer may go too deep for that. -/
structure Paired (files : FileStore) (depth₁ depth₂ : Nat) (self₁ self₂ : NodeRenderer) : Prop where
  counterparts : ∀ {t₁ t₂ i₁ i₂} (mode : Mode), Counterparts depth₁ depth₂ t₁ t₂ i₁ i₂ →
    (alikePairing files depth₁ depth₂).Matches Eq (self₁ t₁ i₁ mode) (self₂ t₂ i₂ mode)
  inert₁ : ∀ {t : Template} {children text}, Inert t.tree.nodes depth₁ children text →
    ∀ s, Settles (renderChildren self₁ t children) s text True
  inert₂ : ∀ {t : Template} {children text}, Inert t.tree.nodes depth₂ children text →
    ∀ s, Settles (renderChildren self₂ t children) s text False

/-! ## Children -/

theorem renderChildren_append (self : NodeRenderer) (template : Template)
    (children more : List Child) :
    renderChildren self template (children ++ more) = (do
      let first ← renderChildren self template children
      let rest ← renderChildren self template more
      pure (first ++ rest)) := by
  induction children with
  | nil =>
    rw [List.nil_append, renderChildren, pure_bind]
    simp
  | cons child children ih =>
    cases child with
    | text content =>
      rw [List.cons_append, renderChildren, renderChildren, ih]
      simp only [bind_assoc, pure_bind, String.append_assoc]
    | node id =>
      rw [List.cons_append, renderChildren, renderChildren, ih]
      simp only [bind_assoc, pure_bind, String.append_assoc]

/-- What is inert on both sides comes to the same text. -/
theorem matches_inert (h : Paired files depth₁ depth₂ self₁ self₂)
    {children₁ children₂ : List Child} {text : String}
    (h₁ : Inert t₁.tree.nodes depth₁ children₁ text)
    (h₂ : Inert t₂.tree.nodes depth₂ children₂ text) :
    (alikePairing files depth₁ depth₂).Matches Eq (renderChildren self₁ t₁ children₁)
      (renderChildren self₂ t₂ children₂) := by
  intro s₁ s₂ hs
  rcases h.inert₁ h₁ s₁ with hok₁ | ⟨-, hdeep⟩
  · rcases h.inert₂ h₂ s₂ with hok₂ | ⟨hfalse, -⟩
    · rw [hok₁, hok₂]
      exact .inr ⟨.ok rfl, hs⟩
    · exact hfalse.elim
  · rw [hdeep]
    exact .inl ⟨_, rfl, rfl⟩

/-- The elements of a template as elements of one that is alike. -/
theorem counterparts_of_live (hpath : t₁.sourcePath = t₂.sourcePath)
    (htrans : t₁.transSource = t₂.transSource) {i₁ i₂ : Nat} {head : Head}
    {inside₁ inside₂ : List Child} {parent₁ parent₂ : Option Nat}
    (hnode₁ : t₁.tree.nodes[i₁]? = some (head.node inside₁ parent₁))
    (hnode₂ : t₂.tree.nodes[i₂]? = some (head.node inside₂ parent₂))
    (hparent : parent₁.isNone = parent₂.isNone)
    (hinside : Alike t₁.tree.nodes t₂.tree.nodes depth₁ depth₂ inside₁ inside₂) :
    Counterparts depth₁ depth₂ t₁ t₂ i₁ i₂ :=
  ⟨hpath, htrans, _, _, hnode₁, hnode₂, rfl, hparent, hinside⟩

/-- **Children that are alike render to the same.** -/
theorem matches_renderChildren (h : Paired files depth₁ depth₂ self₁ self₂)
    (hpath : t₁.sourcePath = t₂.sourcePath) (htrans : t₁.transSource = t₂.transSource)
    {children₁ children₂ : List Child}
    (halike : Alike t₁.tree.nodes t₂.tree.nodes depth₁ depth₂ children₁ children₂) :
    (alikePairing files depth₁ depth₂).Matches Eq (renderChildren self₁ t₁ children₁)
      (renderChildren self₂ t₂ children₂) := by
  -- what is inert comes to its text on both sides; counterparts are up to the renderers
  induction halike with
  | done h₁ h₂ => exact matches_inert h h₁ h₂
  | live h₁ h₂ hnode₁ hnode₂ hparent hinside _ _ ihafter =>
    rw [renderChildren_append, renderChildren_append, renderChildren, renderChildren]
    refine matches_bind (matches_inert h h₁ h₂) ?_
    rintro before _ rfl
    have hnode := h.counterparts .normal
      (counterparts_of_live hpath htrans hnode₁ hnode₂ hparent hinside)
    refine matches_bind (r := Eq) (matches_bind hnode ?_) ?_
    · rintro output _ rfl
      exact matches_bind ihafter fun rest _ hrest => matches_pure (congrArg (output ++ ·) hrest)
    · intro rest _ hrest
      exact matches_pure (congrArg (before ++ ·) hrest)

/-! ## Elements inside that are directives -/

/-- No element that is inert is a directive. -/
theorem outcome_directiveChildren {template : Template} {k : Nat} {children : List Child}
    {text : String} (h : Inert template.tree.nodes k children text) (directive : Directive)
    (s : RenderState) :
    (directiveChildren template directive children).outcome s = (.ok [], s) := by
  induction h with
  | nil => rfl
  | text _ ih => exact ih
  | @node k i head inside children parent body text hnode hinert _ _ _ ih =>
    have hat : (nodeAt template i).outcome s = (.ok (head.node inside parent), s) := by
      rw [nodeAt, Tree.node?, hnode]
      rfl
    have hdirective : (head.node inside parent).directive = none := directive_of_isInert hinert
    rw [directiveChildren, outcome_bind, hat]
    dsimp only
    rw [outcome_bind, ih, hdirective]
    rfl

theorem directiveChildren_append (template : Template) (directive : Directive)
    (children more : List Child) :
    directiveChildren template directive (children ++ more) = (do
      let first ← directiveChildren template directive children
      let rest ← directiveChildren template directive more
      pure (first ++ rest)) := by
  induction children with
  | nil =>
    rw [List.nil_append, directiveChildren, pure_bind]
    simp
  | cons child children ih =>
    cases child with
    | text content => exact ih
    | node id =>
      rw [List.cons_append, directiveChildren, directiveChildren, ih]
      simp only [bind_assoc, pure_bind]
      congr
      funext node
      congr
      funext first
      congr
      funext rest
      split <;> rfl

/-- Counterparts are the same elements but for their places. -/
theorem matches_nodeAt {i₁ i₂ : Nat} (h : Counterparts depth₁ depth₂ t₁ t₂ i₁ i₂) :
    (alikePairing files depth₁ depth₂).Matches
      (Node.Alike depth₁ depth₂ t₁.tree.nodes t₂.tree.nodes) (nodeAt t₁ i₁) (nodeAt t₂ i₂) := by
  obtain ⟨n₁, n₂, hnode₁, hnode₂, halike⟩ := h.nodes
  unfold nodeAt
  rw [hnode₁, hnode₂]
  exact matches_pure halike

/-- Children that are alike have the same directives among them. -/
theorem matches_directiveChildren (hpath : t₁.sourcePath = t₂.sourcePath)
    (htrans : t₁.transSource = t₂.transSource) (directive : Directive)
    {children₁ children₂ : List Child}
    (halike : Alike t₁.tree.nodes t₂.tree.nodes depth₁ depth₂ children₁ children₂) :
    (alikePairing files depth₁ depth₂).Matches (List.Forall₂ (Counterparts depth₁ depth₂ t₁ t₂))
      (directiveChildren t₁ directive children₁) (directiveChildren t₂ directive children₂) := by
  -- inert children have no directives, so either side finds nothing there
  have hinert : ∀ {before₁ before₂ : List Child} {text : String},
      Inert t₁.tree.nodes depth₁ before₁ text → Inert t₂.tree.nodes depth₂ before₂ text →
      (alikePairing files depth₁ depth₂).Matches (List.Forall₂ (Counterparts depth₁ depth₂ t₁ t₂))
        (directiveChildren t₁ directive before₁) (directiveChildren t₂ directive before₂) := by
    intro before₁ before₂ text h₁ h₂ s₁ s₂ hs
    rw [outcome_directiveChildren h₁, outcome_directiveChildren h₂]
    exact .inr ⟨.ok .nil, hs⟩
  induction halike with
  | done h₁ h₂ => exact hinert h₁ h₂
  | live h₁ h₂ hnode₁ hnode₂ hparent hinside _ _ ihafter =>
    have hboth := counterparts_of_live hpath htrans hnode₁ hnode₂ hparent hinside
    rw [directiveChildren_append, directiveChildren_append, directiveChildren, directiveChildren]
    refine matches_bind (hinert h₁ h₂) fun before₁ before₂ hbefore => ?_
    refine matches_bind (r := List.Forall₂ (Counterparts depth₁ depth₂ t₁ t₂))
      (matches_bind (matches_nodeAt hboth) ?_) ?_
    · intro n₁ n₂ hn
      refine matches_bind ihafter fun rest₁ rest₂ hrest => ?_
      rw [hn.directive]
      split
      · exact matches_pure (.cons hboth hrest)
      · exact matches_pure hrest
    · intro rest₁ rest₂ hrest
      exact matches_pure (List.rel_append hbefore hrest)

/-- The error of an element has the same annotation on both sides. -/
theorem annotated_eq (hpath : t₁.sourcePath = t₂.sourcePath) {n₁ n₂ : Node}
    (hn : Node.Alike depth₁ depth₂ t₁.tree.nodes t₂.tree.nodes n₁ n₂) :
    Error.annotated t₁ n₁ = Error.annotated t₂ n₂ := by
  funext e
  unfold Error.annotated
  rw [hn.tag, hn.line, hpath]

/-- Elements that are alike say the same. -/
theorem kin_of_alike (h : Paired files depth₁ depth₂ self₁ self₂)
    (hpath : t₁.sourcePath = t₂.sourcePath) (htrans : t₁.transSource = t₂.transSource)
    {n₁ n₂ : Node} (hn : Node.Alike depth₁ depth₂ t₁.tree.nodes t₂.tree.nodes n₁ n₂) :
    (alikePairing files depth₁ depth₂).Kin self₁ self₂ t₁ t₂ n₁ n₂ where
  sourcePath := hpath
  transSource := htrans
  annotated := by
    rintro e _ rfl
    exact congrFun (annotated_eq hpath hn) e
  stops := by
    rintro _ rfl
    rfl
  directive := hn.directive
  isNamespaced := hn.isNamespaced
  tag _ := hn.tag
  plainAttributes := hn.plainAttributes
  directiveAttribute? := hn.directiveAttribute?
  attribute? name _ := hn.attribute? name
  params _ := hn.attributes
  selfClosing := hn.selfClosing
  precedingText := hn.precedingText
  isOutermost := hn.isOutermost
  children := matches_renderChildren h hpath htrans hn.children
  directives d := matches_directiveChildren hpath htrans d hn.children

theorem Paired.renderers (h : Paired files depth₁ depth₂ self₁ self₂) :
    (alikePairing files depth₁ depth₂).Renderers self₁ self₂ where
  rendered := h.counterparts
  nodes := by
    intro t₁ t₂ i₁ i₂ hi
    obtain ⟨n₁, n₂, hnode₁, hnode₂, halike⟩ := hi.nodes
    unfold nodeAt
    rw [hnode₁, hnode₂]
    exact matches_pure (kin_of_alike h hi.sourcePath hi.transSource halike)
  registered := Iff.rfl

end Rendering

/-! ## Included templates -/

/-- The environment that reads templates with or without folding, each time anew. -/
def Environment.folding (env : Environment) (fold : Bool) : Environment :=
  { env with config := { env.config with fold }, cache := none }

/-- The templates that the files hold, read in two ways, are alike. -/
def Included (files : FileStore) (fold₁ fold₂ : Bool) (depth₁ depth₂ : Nat) : Prop :=
  ∀ path, Agree (Template.Alike depth₁ depth₂) (readTemplate files path fold₁)
    (readTemplate files path fold₂)

namespace Included

variable {files : FileStore} {fold₁ fold₂ : Bool} {depth₁ depth₂ : Nat}

theorem symm (h : Included files fold₁ fold₂ depth₁ depth₂) :
    Included files fold₂ fold₁ depth₂ depth₁ :=
  fun path => (h path).swap.imp fun _ _ _ _ => Template.Alike.symm

theorem mono {deeper₁ deeper₂ : Nat} (h : Included files fold₁ fold₂ depth₁ depth₂)
    (hle₁ : depth₁ ≤ deeper₁) (hle₂ : depth₂ ≤ deeper₂) :
    Included files fold₁ fold₂ deeper₁ deeper₂ :=
  fun path => (h path).imp fun _ _ _ _ ht => ht.mono hle₁ hle₂

end Included

namespace Rendering

variable {env : Environment} {files : FileStore} {fold₁ fold₂ : Bool} {depth₁ depth₂ : Nat}
  {t₁ t₂ : Template} {self₁ self₂ : NodeRenderer}

/-- A template is its root as a single child. -/
theorem renderTemplate_eq (self : NodeRenderer) (template : Template) :
    renderTemplate self template = renderChildren self template template.tree.root.toList := by
  rw [renderTemplate]
  cases template.tree.root with
  | none => rfl
  | some child =>
    cases child with
    | node id => simp [renderChildren]
    | text content => simp [renderChildren]

theorem matches_renderTemplate (h : Paired files depth₁ depth₂ self₁ self₂)
    (ht : Template.Alike depth₁ depth₂ t₁ t₂) :
    (alikePairing files depth₁ depth₂).Matches Eq (renderTemplate self₁ t₁)
      (renderTemplate self₂ t₂) := by
  rw [renderTemplate_eq, renderTemplate_eq]
  exact matches_renderChildren h ht.sourcePath ht.transSource ht.root

/-- Without a cache the files are only read. -/
theorem outcome_load (fold : Bool) (file : String) (s : RenderState) :
    (load (env.folding fold) file).outcome s = (readTemplate s.files file fold, s) := by
  show ((loadTemplate none s.files file fold).1.map Loaded.template,
    { s with files := (loadTemplate none s.files file fold).2 }) = _
  unfold loadTemplate
  cases readTemplate s.files file fold <;> rfl

theorem matches_load (env : Environment)
    (hincluded : Included files fold₁ fold₂ depth₁ depth₂) (file : String) :
    (alikePairing files depth₁ depth₂).Matches (Template.Alike depth₁ depth₂)
      (load (env.folding fold₁) file) (load (env.folding fold₂) file) := by
  intro s₁ s₂ (hs : Pairing.Beside _ s₁ s₂)
  rw [outcome_load, outcome_load, hs.files_eq fun _ _ => Iff.rfl, hs.files]
  exact .inr ⟨.ofAgree (fun _ => rfl) (hincluded file), hs⟩

/-- The renderers are paired if the second one goes deeper by what may be inert on its side. -/
theorem paired_renderNode (hincluded : Included files fold₁ fold₂ depth₁ depth₂)
    {deep₁ deep₂ : Nat} (hdeep : deep₁ + depth₂ ≤ deep₂) :
    Paired files depth₁ depth₂ (renderNode (env.folding fold₁) deep₁)
      (renderNode (env.folding fold₂) deep₂) := by
  -- a renderer without depth fails on every element, so nothing is left to show for counterparts
  induction deep₁ generalizing deep₂ with
  | zero =>
    refine ⟨fun mode _ _ _ _ => .inl ⟨_, rfl, rfl⟩, fun h s => ?_, fun h s => ?_⟩
    · exact (outcome_inert h 0 s).imp_right fun hshallow => ⟨trivial, hshallow.2⟩
    · exact (outcome_inert h deep₂ s).imp_right fun hshallow => ⟨by omega, hshallow.2⟩
  | succ deep₁ ih =>
    obtain ⟨deep₂, rfl⟩ : ∃ d, deep₂ = d + 1 := ⟨deep₂ - 1, by omega⟩
    have hpaired := @ih deep₂ (by omega)
    refine ⟨fun mode hi => ?_, fun h s => ?_, fun h s => ?_⟩
    · refine matches_renderWith env.raises_any (fun _ _ => Iff.rfl) hpaired.renderers
        (fun _ => trivial) (fun file => ?_) hi mode
      have hread := matches_load env hincluded file
      exact hread.mono fun _ _ => matches_renderTemplate hpaired
    · exact (outcome_inert h (deep₁ + 1) s).imp_right fun hshallow => ⟨trivial, hshallow.2⟩
    · exact (outcome_inert h (deep₂ + 1) s).imp_right fun hshallow => ⟨by omega, hshallow.2⟩

end Rendering

end TagTemplate
