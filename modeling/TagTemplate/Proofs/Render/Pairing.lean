import TagTemplate.Proofs.Render.Agreement

/-!
# Templates rendered beside each other

Two templates can be rendered beside each other if their elements belong together. What one
rendering knows and the other does not are the templates of the macros, and the files if it is said
so; elements that belong together are registered in both under the same name.

- `Environment.Raises`: the errors that can come up before they are annotated;
- `Pairing`: which elements and macros belong together, what is known of the states, and which
  errors stand for each other;
- `Pairing.Beside`: the states of the two renderings;
- `Pairing.Kin`: elements that say the same, each in its own template;
- `Pairing.Inside`: renderers that agree on what stands inside of two elements and on the macros
  that the elements call;
- `Pairing.Renderers`: renderers for the elements inside that render counterparts beside each other.
-/

namespace TagTemplate

/-- A change of the state that has no part in the macros, the files and the include level. -/
structure RenderState.Passive (f : RenderState → RenderState) : Prop where
  apart : ∀ s macros files, f { s with macros, files } = { f s with macros, files }
  level : ∀ s, (f s).includeDepth = s.includeDepth

/-- The errors that can come up in an environment before they are annotated: those of the engine
itself, and those of the functions and feeds that were added to it. -/
structure Environment.Raises (env : Environment) (raised : Error → Prop) : Prop where
  plain : ∀ e, e.IsPlain → raised e
  evaluated : ∀ scope iteration expression e,
    Expr.evaluate ⟨scope, env.functions, iteration⟩ expression = .error e → raised e
  fed : ∀ name run params e, env.feeds.findSome? (· name) = some run → run params = .error e →
    raised e

theorem Environment.raises_any (env : Environment) : env.Raises fun _ => True :=
  ⟨fun _ _ => trivial, fun _ _ _ _ _ => trivial, fun _ _ _ _ _ _ => trivial⟩

theorem FileStore.workingDirectory_of_eq {f₁ f₂ : FileStore} (h : f₂ = f₁) :
    f₂.workingDirectory = f₁.workingDirectory :=
  congrArg workingDirectory h

/-- How the elements of two templates are rendered beside each other. -/
structure Pairing where
  /-- The elements that belong together, one of each template. -/
  counterparts : Template → Template → Nat → Nat → Prop
  /-- The macros that may be registered under a name, one in each rendering. -/
  registered : String → Macro → Macro → Prop :=
    fun _ d₁ d₂ => counterparts d₁.template d₂.template d₁.node d₂.node
  /-- The include levels that the renderings may be on. -/
  level : Nat → Prop := fun _ => True
  /-- The files that the first rendering may find. -/
  files : FileStore → Prop
  /-- The files that the second rendering may find in place of these. -/
  mirror : FileStore → FileStore → Prop := fun f₁ f₂ => f₂ = f₁
  workingDirectory_mirror : ∀ {f₁ f₂},
      mirror f₁ f₂ → f₂.workingDirectory = f₁.workingDirectory := by
    exact @FileStore.workingDirectory_of_eq
  /-- The errors that stand for each other. -/
  error : Error → Error → Prop
  /-- The errors that come up on both sides alike, before they are annotated. -/
  raised : Error → Prop := fun _ => True
  error_refl : ∀ e, raised e → error e e
  /-- The errors that may stop the first rendering where the second one goes on. -/
  stops : Error → Prop

namespace Pairing

open Rendering

/-- Macros under the same names. -/
def MacrosAlike (P : Pairing) : OrderedMap Macro → OrderedMap Macro → Prop :=
  fun m₁ m₂ => m₁.entries.Forall₂
    (fun e₁ e₂ => e₁.1 = e₂.1 ∧ P.registered e₁.1 e₁.2 e₂.2) m₂.entries

/-- The states of two renderings beside each other: they differ in the macros and the files only. -/
structure Beside (P : Pairing) (s₁ s₂ : RenderState) : Prop where
  rest : s₂ = { s₁ with macros := s₂.macros, files := s₂.files }
  macros : P.MacrosAlike s₁.macros s₂.macros
  files : P.files s₁.files
  mirror : P.mirror s₁.files s₂.files
  level : P.level s₁.includeDepth

/-- The renderings are held against each other by their states and errors. -/
def comparison (P : Pairing) : Comparison := ⟨P.Beside, P.error, P.raised, P.error_refl, P.stops⟩

/-- Renderings that match beside each other. -/
abbrev Matches {α β : Type} (P : Pairing) (r : α → β → Prop) (x : Rendering α) (y : Rendering β) :
    Prop :=
  Rendering.Matches P.comparison r x y

/-- Both renderings find the same files. -/
def SameFiles (P : Pairing) : Prop := ∀ f₁ f₂, P.mirror f₁ f₂ ↔ f₂ = f₁

/-- The same elements beside each other, on other include levels. -/
def onLevels (P : Pairing) (level : Nat → Prop) : Pairing := { P with level }

variable {P : Pairing} {s₁ s₂ : RenderState}

/-! ## States beside each other -/

theorem beside_start (scope : Scope) {files₁ files₂ : FileStore} (h : P.files files₁)
    (hmirror : P.mirror files₁ files₂) (hlevel : P.level 0) :
    P.Beside (.start scope files₁) (.start scope files₂) :=
  ⟨rfl, .nil, h, hmirror, hlevel⟩

theorem Beside.files_eq (h : P.Beside s₁ s₂) (hsame : P.SameFiles) : s₂.files = s₁.files :=
  (hsame _ _).1 h.mirror

/-- Apart from the macros the states are the same if the files are. -/
theorem Beside.eq_of_sameFiles (h : P.Beside s₁ s₂) (hsame : P.SameFiles) :
    s₂ = { s₁ with macros := s₂.macros } := by
  have hrest := h.rest
  rw [h.files_eq hsame] at hrest
  exact hrest

theorem Beside.workingDirectory_eq (h : P.Beside s₁ s₂) :
    s₂.files.workingDirectory = s₁.files.workingDirectory :=
  P.workingDirectory_mirror h.mirror

/-- Neither macros nor files have a part in the finished output. -/
theorem Beside.finish_eq (h : P.Beside s₁ s₂) : s₂.finish = s₁.finish :=
  (congrArg RenderState.finish h.rest :)

/-- A change that neither the macros nor the files have a part in. -/
theorem Beside.change (h : P.Beside s₁ s₂) {f : RenderState → RenderState}
    (hf : ∀ s macros files, f { s with macros, files } = { f s with macros, files })
    {level : Nat → Prop} (hlevel : level (f s₁).includeDepth) :
    (P.onLevels level).Beside (f s₁) (f s₂) := by
  have hapart : ∀ s, f s = { f s with macros := s.macros, files := s.files } := fun s =>
    hf s s.macros s.files
  have hmacros : ∀ s, (f s).macros = s.macros := fun s => (congrArg RenderState.macros (hapart s) :)
  have hfiles : ∀ s, (f s).files = s.files := fun s => (congrArg RenderState.files (hapart s) :)
  refine ⟨?_, ?_, ?_, ?_, hlevel⟩
  · rw [hmacros, hfiles]
    exact (congrArg f h.rest).trans (hf s₁ s₂.macros s₂.files)
  · rw [hmacros, hmacros]
    exact h.macros
  · rw [hfiles]
    exact h.files
  · rw [hfiles, hfiles]
    exact h.mirror

theorem Beside.map (h : P.Beside s₁ s₂) {f : RenderState → RenderState}
    (hf : RenderState.Passive f) : P.Beside (f s₁) (f s₂) :=
  h.change hf.apart ((hf.level s₁).symm ▸ h.level)

theorem lookup_of_macrosAlike {m₁ m₂ : OrderedMap Macro} (h : P.MacrosAlike m₁ m₂)
    (name : String) :
    m₁.get? name = none ∧ m₂.get? name = none ∨
    ∃ d₁ d₂, m₁.get? name = some d₁ ∧ m₂.get? name = some d₂ ∧ P.registered name d₁ d₂ := by
  obtain ⟨entries₁⟩ := m₁
  obtain ⟨entries₂⟩ := m₂
  replace h : List.Forall₂ _ entries₁ entries₂ := h
  unfold OrderedMap.get?
  induction h with
  | nil => exact .inl ⟨rfl, rfl⟩
  | @cons e₁ e₂ _ _ hfirst _ ih =>
    obtain ⟨key₁, d₁⟩ := e₁
    obtain ⟨key₂, d₂⟩ := e₂
    obtain ⟨rfl, hd⟩ := hfirst
    dsimp only at ih
    rw [List.lookup_cons, List.lookup_cons]
    cases hname : name == key₁ with
    | true =>
      obtain rfl := eq_of_beq hname
      exact .inr ⟨d₁, d₂, rfl, rfl, hd⟩
    | false => exact ih

theorem insert_of_macrosAlike {m₁ m₂ : OrderedMap Macro} (h : P.MacrosAlike m₁ m₂)
    {name : String} {d₁ d₂ : Macro} (hd : P.registered name d₁ d₂) :
    P.MacrosAlike (m₁.insert name d₁) (m₂.insert name d₂) := by
  obtain ⟨entries₁⟩ := m₁
  obtain ⟨entries₂⟩ := m₂
  replace h : List.Forall₂ _ entries₁ entries₂ := h
  show List.Forall₂ _ (OrderedMap.insertEntry name d₁ entries₁)
    (OrderedMap.insertEntry name d₂ entries₂)
  induction h with
  | nil => exact .cons ⟨rfl, hd⟩ .nil
  | @cons e₁ e₂ _ _ hfirst hrest ih =>
    obtain ⟨key₁, old₁⟩ := e₁
    obtain ⟨key₂, old₂⟩ := e₂
    obtain ⟨rfl, hold⟩ := hfirst
    rw [OrderedMap.insertEntry, OrderedMap.insertEntry]
    split
    · rename_i hname
      exact .cons ⟨rfl, hname ▸ hd⟩ hrest
    · exact .cons ⟨rfl, hold⟩ ih

theorem matches_state : P.Matches P.Beside get get := matches_get

/-- A change of the state that has no part in what is known of it. -/
theorem matches_change {f : RenderState → RenderState} (hf : RenderState.Passive f) :
    P.Matches Eq (modify f) (modify f) :=
  matches_modify fun _ _ h => h.map hf

/-- An action between two changes of the state. -/
theorem matches_between {α β : Type} {r : α → β → Prop} {x : Rendering α} {y : Rendering β}
    {enter leave : RenderState → RenderState} (henter : RenderState.Passive enter)
    (hleave : RenderState.Passive leave) (h : P.Matches r x y) :
    P.Matches r (during enter leave x) (during enter leave y) :=
  matches_during (fun _ _ hs => hs.map henter) (fun _ _ hs => hs.map hleave) h

/-- An action on the include level below. -/
theorem matches_withInclude {α β : Type} {r : α → β → Prop} {x : Rendering α} {y : Rendering β}
    {deeper : Nat → Prop} (hdown : ∀ l, P.level l → deeper (l + 1))
    (hup : ∀ l, deeper l → P.level (l - 1)) (h : (P.onLevels deeper).Matches r x y) :
    P.Matches r (withInclude x) (withInclude y) := by
  intro s₁ s₂ hs
  have henter : (P.onLevels deeper).Beside { s₁ with includeDepth := s₁.includeDepth + 1 }
      { s₂ with includeDepth := s₂.includeDepth + 1 } :=
    Beside.change hs (f := fun s => { s with includeDepth := s.includeDepth + 1 })
      (fun _ _ _ => rfl) (hdown _ (Beside.level hs))
  refine (h _ _ henter).imp_right fun ⟨hcorresponds, hs'⟩ => ⟨hcorresponds, ?_⟩
  exact Beside.change (f := fun s => { s with includeDepth := s.includeDepth - 1 }) hs'
    (fun _ _ _ => rfl) (hup _ (Beside.level hs'))

/-! ## Elements beside each other -/

/-- Two elements, each in its own template, that say the same and have the same inside. -/
structure Kin (P : Pairing) (self₁ self₂ : NodeRenderer) (t₁ t₂ : Template) (n₁ n₂ : Node) :
    Prop where
  sourcePath : t₁.sourcePath = t₂.sourcePath
  transSource : t₁.transSource = t₂.transSource
  annotated : ∀ e₁ e₂, P.error e₁ e₂ → P.error (Error.annotated t₁ n₁ e₁) (Error.annotated t₂ n₂ e₂)
  stops : ∀ e, P.stops e → P.stops (Error.annotated t₁ n₁ e)
  directive : n₁.directive = n₂.directive
  isNamespaced : n₁.isNamespaced = n₂.isNamespaced
  /-- Tags that are not written may differ. -/
  tag : n₁.isNamespaced = false → n₁.tag = n₂.tag
  plainAttributes : n₁.plainAttributes = n₂.plainAttributes
  directiveAttribute? : ∀ name, n₁.directiveAttribute? name = n₂.directiveAttribute? name
  attribute? : ∀ name, ':' ∉ name.toList → n₁.attribute? name = n₂.attribute? name
  /-- All attributes of a feed are its parameters. -/
  params : n₁.directive = some .feed → n₁.attributes = n₂.attributes
  selfClosing : n₁.selfClosing = n₂.selfClosing
  precedingText : n₁.precedingText = n₂.precedingText
  isOutermost : n₁.parent.isNone = n₂.parent.isNone
  children : P.Matches Eq (renderChildren self₁ t₁ n₁.children)
    (renderChildren self₂ t₂ n₂.children)
  directives : ∀ d, P.Matches (List.Forall₂ (P.counterparts t₁ t₂))
    (directiveChildren t₁ d n₁.children) (directiveChildren t₂ d n₂.children)

/-- The renderers agree on what stands inside of two elements, and on the macros that these call. -/
structure Inside (P : Pairing) (self₁ self₂ : NodeRenderer) (t₁ t₂ : Template) (n₁ n₂ : Node) :
    Prop where
  made : P.Matches
    (List.Forall₂ fun i₁ i₂ => P.Matches Eq (self₁ t₁ i₁ .normal) (self₂ t₂ i₂ .normal))
    (directiveChildren t₁ .attr n₁.children) (directiveChildren t₂ .attr n₂.children)
  params : P.Matches
    (List.Forall₂ fun i₁ i₂ => P.Matches (P.Kin self₁ self₂ t₁ t₂) (nodeAt t₁ i₁) (nodeAt t₂ i₂))
    (directiveChildren t₁ .param n₁.children) (directiveChildren t₂ .param n₂.children)
  called : ∀ {name d₁ d₂}, n₂.directiveAttribute? "call" = some name → P.registered name d₁ d₂ →
    P.Matches Eq (self₁ d₁.template d₁.node .called) (self₂ d₂.template d₂.node .called)

/-- Renderers for the elements inside that render counterparts beside each other. -/
structure Renderers (P : Pairing) (self₁ self₂ : NodeRenderer) : Prop where
  rendered : ∀ {t₁ t₂ i₁ i₂} (mode : Mode), P.counterparts t₁ t₂ i₁ i₂ →
    P.Matches Eq (self₁ t₁ i₁ mode) (self₂ t₂ i₂ mode)
  nodes : ∀ {t₁ t₂ i₁ i₂}, P.counterparts t₁ t₂ i₁ i₂ →
    P.Matches (P.Kin self₁ self₂ t₁ t₂) (nodeAt t₁ i₁) (nodeAt t₂ i₂)
  registered : ∀ {name d₁ d₂}, P.registered name d₁ d₂ ↔
    P.counterparts d₁.template d₂.template d₁.node d₂.node

/-- Renderers of counterparts agree on what stands inside of elements that say the same. -/
theorem Renderers.inside {self₁ self₂ : NodeRenderer} {t₁ t₂ : Template} {n₁ n₂ : Node}
    (h : P.Renderers self₁ self₂) (hn : P.Kin self₁ self₂ t₁ t₂ n₁ n₂) :
    P.Inside self₁ self₂ t₁ t₂ n₁ n₂ where
  made := (hn.directives .attr).mono fun _ _ hids => hids.imp fun _ _ => h.rendered .normal
  params := (hn.directives .param).mono fun _ _ hids => hids.imp fun _ _ => h.nodes
  called _ hd := h.rendered .called (h.registered.1 hd)

end Pairing

end TagTemplate
