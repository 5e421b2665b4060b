import Mathlib.Logic.Relation
import TagTemplate.Proofs.FileStore
import TagTemplate.Proofs.Render.Directives
import TagTemplate.Proofs.Template.Failures

/-!
# One template under two renderers

The same elements are rendered in two ways, beside each other. Elements say the same as themselves,
so that only what the two ways do differently is left to show: what happens to the elements inside,
to macros that are called, and to included templates.

- `Pairing.ofSame`: every element belongs to itself, and macros are the same on both sides;
- `Template.Holds`: the elements that a rendering comes to from an element, in its own template;
- `Environment.Loads`: what is known of all templates that can be included, and of the files;
- `Environment.InPlay`: the templates that a document can come to;
- `Rendering.renderOver`: renders down to a depth, and leaves what is nested deeper to another
  renderer;
- `matches_sameElement`: **an element renders to the same in both ways**, if what it holds and what
  it calls does.
-/

namespace TagTemplate

open Rendering

/-- Every element beside itself; of macros that are registered under a name something may be
known. -/
def Pairing.ofSame (registered : String → Macro → Prop) (level : Nat → Prop)
    (files : FileStore → Prop) (error : Error → Error → Prop) (raised : Error → Prop)
    (error_refl : ∀ e, raised e → error e e) (stops : Error → Prop) : Pairing where
  counterparts t₁ t₂ i₁ i₂ := t₂ = t₁ ∧ i₂ = i₁
  registered name d₁ d₂ := d₂ = d₁ ∧ registered name d₁
  level := level
  files := files
  error := error
  raised := raised
  error_refl := error_refl
  stops := stops

/-- The children of an element, and those of the parameters among them. -/
inductive Template.Holds (t : Template) (n : Node) : Nat → Prop
  | child {i : Nat} : .node i ∈ n.children → Holds t n i
  | param {p i : Nat} {m : Node} : .node p ∈ n.children → t.tree.node? p = some m →
    .node i ∈ m.children → Holds t n i

/-- The standard environment, to which nothing was added. -/
def bareEnvironment : Environment := ⟨.standard, .empty, [], none, none⟩

/-- The files may come to this by loading templates, which may be put into the cache. -/
def Environment.Leads (env : Environment) : FileStore → FileStore → Prop :=
  Relation.ReflTransGen fun before after =>
    ∃ path, after = (loadTemplate env.cache before path env.config.fold).2

/-- The main template of a document, and all that can be loaded while it is rendered. -/
inductive Environment.InPlay (env : Environment) (store : FileStore) (main : Template) :
    Template → Prop
  | main : InPlay env store main main
  | loaded {s : FileStore} {path : String} {loaded : Loaded} : env.Leads store s →
    (loadTemplate env.cache s path env.config.fold).1 = .ok loaded →
    InPlay env store main loaded.template

/-- Whatever is loaded from files of this kind is a template of that kind, and leaves such files. -/
structure Environment.Loads (env : Environment) (files : FileStore → Prop)
    (template : String → Template → Prop) : Prop where
  template : ∀ {s path loaded}, files s →
    (loadTemplate env.cache s path env.config.fold).1 = .ok loaded → template path loaded.template
  files : ∀ {s path}, files s → files (loadTemplate env.cache s path env.config.fold).2

theorem Environment.loads_inPlay (env : Environment) (store : FileStore) (main : Template) :
    env.Loads (env.Leads store) fun _ => env.InPlay store main :=
  ⟨.loaded, fun h => h.tail ⟨_, rfl⟩⟩

namespace Rendering

/-! ## Renderers over others -/

/-- Renders down to a depth, and leaves what is nested deeper to another renderer. -/
def renderOver (env : Environment) (base : NodeRenderer) : Nat → NodeRenderer
  | 0 => base
  | depth + 1 => renderWith env (renderOver env base depth)

/-- The renderer for what is nested too deep. -/
abbrev exhausted : NodeRenderer := fun _ _ _ => throw tooDeep

theorem renderNode_eq_renderOver (env : Environment) (depth : Nat) :
    renderNode env depth = renderOver env exhausted depth := by
  induction depth with
  | zero => rfl
  | succ depth ih => exact congrArg (renderWith env) ih

theorem renderNode_add (env : Environment) (more depth : Nat) :
    renderNode env (more + depth) = renderOver env (renderNode env more) depth := by
  induction depth with
  | zero => rfl
  | succ depth ih => exact congrArg (renderWith env) ih

variable {env : Environment} {fold₁ fold₂ : Bool} {cache₁ cache₂ : Option Cache}
  {limit₁ limit₂ : Nat} {P : Pairing} {t : Template} {self₁ self₂ : NodeRenderer} {n : Node}

/-! ## States -/

/-- If macros and files are the same on both sides, the states are. -/
theorem eq_of_beside (hmacros : ∀ name d₁ d₂, P.registered name d₁ d₂ → d₂ = d₁)
    (hfiles : P.SameFiles) {s₁ s₂ : RenderState} (h : P.Beside s₁ s₂) : s₂ = s₁ := by
  have hentries : List.Forall₂ Eq s₁.macros.entries s₂.macros.entries :=
    h.macros.imp fun e₁ e₂ ⟨hname, hd⟩ => Prod.ext hname (hmacros _ _ _ hd).symm
  have hsame : s₁.macros = s₂.macros :=
    congrArg OrderedMap.mk (List.forall₂_eq_eq_eq ▸ hentries)
  rw [h.eq_of_sameFiles hfiles, ← hsame]

/-- From the start of a document, both give what corresponds, if no error stops the first one, and
they leave the same state. -/
theorem corresponds_of_matches {α : Type} {x y : Rendering α} (h : P.Matches Eq x y)
    (hmacros : ∀ name d₁ d₂, P.registered name d₁ d₂ → d₂ = d₁) (hsame : P.SameFiles)
    (hnever : ∀ e, ¬ P.stops e) (scope : Scope) {store : FileStore} (hfiles : P.files store)
    (hlevel : P.level 0) :
    Corresponds P.error Eq (x.outcome (.start scope store)).1 (y.outcome (.start scope store)).1 ∧
      (y.outcome (.start scope store)).2 = (x.outcome (.start scope store)).2 := by
  have hstart := Pairing.beside_start scope hfiles ((hsame store store).2 rfl) hlevel
  obtain ⟨hresult, hstate⟩ := (h _ _ hstart).resolve_left
    fun ⟨e, hstopped, _⟩ => hnever e hstopped
  exact ⟨hresult, eq_of_beside hmacros hsame hstate⟩

/-- Without a cache only what stands in the files is read. -/
theorem loads_of_texts (hcache : env.cache = none) {store : FileStore}
    {template : String → Template → Prop}
    (h : ∀ content time text path t, .file content time ∈ store.entries.values →
      String.fromUTF8? content = some text → Template.read text path env.config.fold = .ok t →
      template path t) :
    env.Loads (· = store) template := by
  have hload : ∀ s path, loadTemplate env.cache s path env.config.fold =
      ((readTemplate s path env.config.fold).map (⟨·, false⟩), s) := by
    intro s path
    rw [hcache, loadTemplate]
    cases readTemplate s path env.config.fold <;> rfl
  constructor
  · rintro s path loaded rfl hloaded
    rw [hload] at hloaded
    obtain ⟨t, hread, rfl⟩ := map_eq_ok hloaded
    obtain ⟨text, htext, ht⟩ := bind_eq_ok hread
    obtain ⟨content, time, hmem, hdecoded⟩ := FileStore.exists_entry_of_readNamed htext
    exact h content time text path t hmem hdecoded ht
  · rintro s path rfl
    rw [hload]

/-- Without a cache the files stay as they are. -/
theorem eq_of_leads (hcache : env.cache = none) {store files : FileStore}
    (h : env.Leads store files) : files = store := by
  have hloads : env.Loads (· = store) fun _ _ => True :=
    loads_of_texts hcache fun _ _ _ _ _ _ _ _ => trivial
  induction h with
  | refl => rfl
  | tail _ hstep ih =>
    obtain ⟨path, rfl⟩ := hstep
    exact hloads.files ih

/-- Both sides load the same template, of which something is known. -/
theorem matches_loadSame {template : String → Template → Prop} (henv : env.Raises P.raised)
    (hsame : P.SameFiles) (h : env.Loads P.files template) (file : String) :
    P.Matches (fun t₁ t₂ => t₂ = t₁ ∧ template file t₁) (load env file) (load env file) := by
  intro s₁ s₂ (hs : P.Beside s₁ s₂)
  have houtcome : ∀ s, (load env file).outcome s =
      ((loadTemplate env.cache s.files file env.config.fold).1.map Loaded.template,
        { s with files := (loadTemplate env.cache s.files file env.config.fold).2 }) := fun _ => rfl
  rw [houtcome, houtcome, hs.files_eq hsame]
  refine .inr ⟨?_, ?_, hs.macros, h.files hs.files, (hsame _ _).2 rfl, hs.level⟩
  · cases hload : (loadTemplate env.cache s₁.files file env.config.fold).1 with
    | error e =>
      have hkind := failsAs_loadTemplate _ _ _ _ e hload
      exact .error (P.error_refl e (henv.plain e hkind.isPlain))
    | ok loaded => exact .ok ⟨rfl, h.template hs.files hload⟩
  · exact congrArg (fun s : RenderState =>
      { s with files := (loadTemplate env.cache s₁.files file env.config.fold).2 })
      (hs.eq_of_sameFiles hsame)

/-- Templates with the same root render to the same, if it does. -/
theorem matches_sameRoot {t₁ t₂ : Template} (hroot : t₁.tree.root = t₂.tree.root)
    (h : ∀ i, t₁.tree.root = some (.node i) →
      P.Matches Eq (self₁ t₁ i .normal) (self₂ t₂ i .normal)) :
    P.Matches Eq (renderTemplate self₁ t₁) (renderTemplate self₂ t₂) := by
  unfold renderTemplate
  rw [← hroot]
  cases hchild : t₁.tree.root with
  | none => exact matches_pure rfl
  | some child =>
    cases child with
    | text content => exact matches_pure rfl
    | node id => exact h id hchild

/-! ## Elements -/

theorem matches_nodeAt_same {r : Node → Node → Prop} (hraised : P.raised (.fault .missingNode))
    (i : Nat) (h : ∀ m, t.tree.node? i = some m → r m m) :
    P.Matches r (nodeAt t i) (nodeAt t i) := by
  unfold nodeAt
  cases hnode : t.tree.node? i with
  | none => exact matches_throw hraised
  | some m => exact matches_pure (h m hnode)

/-- The same element is looked up on both sides, and errors of it are annotated. -/
theorem matches_atNode_same {annotate₁ annotate₂ : Node → Error → Error}
    {body₁ body₂ : Node → Rendering String} (hraised : P.raised (.fault .missingNode))
    (herror : ∀ m ∈ t.tree.nodes, ∀ e₁ e₂, P.error e₁ e₂ →
      P.error (annotate₁ m e₁) (annotate₂ m e₂))
    (hstops : ∀ m ∈ t.tree.nodes, ∀ e, P.stops e → P.stops (annotate₁ m e)) (i : Nat)
    (hbody : ∀ m, t.tree.node? i = some m → P.Matches Eq (body₁ m) (body₂ m)) :
    P.Matches Eq (nodeAt t i >>= fun m => ExceptT.adapt (annotate₁ m) (body₁ m))
      (nodeAt t i >>= fun m => ExceptT.adapt (annotate₂ m) (body₂ m)) := by
  have hnode : P.Matches (fun m₁ m₂ => m₂ = m₁ ∧ t.tree.node? i = some m₁) (nodeAt t i)
      (nodeAt t i) := matches_nodeAt_same hraised i fun m hm => ⟨rfl, hm⟩
  refine matches_bind hnode ?_
  rintro _ m ⟨rfl, hm⟩
  have hmem := List.mem_of_getElem? hm
  exact matches_adapt (herror m hmem) (hstops m hmem) (hbody m hm)

/-- Every element of the template beside itself, with the errors that are annotated with it. -/
structure OwnKin (P : Pairing) (t : Template) : Prop where
  missing : P.raised (.fault .missingNode)
  counterparts : ∀ i, P.counterparts t t i i
  annotated : ∀ m ∈ t.tree.nodes, ∀ e₁ e₂, P.error e₁ e₂ →
    P.error (Error.annotated t m e₁) (Error.annotated t m e₂)
  stops : ∀ m ∈ t.tree.nodes, ∀ e, P.stops e → P.stops (Error.annotated t m e)

/-- An element says the same as itself. -/
theorem OwnKin.kin (h : OwnKin P t) {m : Node} (hm : m ∈ t.tree.nodes)
    (hchildren : ∀ i, .node i ∈ m.children →
      P.Matches Eq (self₁ t i .normal) (self₂ t i .normal)) :
    P.Kin self₁ self₂ t t m m where
  sourcePath := rfl
  transSource := rfl
  annotated := h.annotated m hm
  stops := h.stops m hm
  directive := rfl
  isNamespaced := rfl
  tag _ := rfl
  plainAttributes := rfl
  directiveAttribute? _ := rfl
  attribute? _ _ := rfl
  params _ := rfl
  selfClosing := rfl
  precedingText := rfl
  isOutermost := rfl
  children := matches_sameChildren hchildren
  directives _ := matches_sameDirectives fun i _ => matches_nodeAt_same h.missing i fun _ _ =>
    ⟨rfl, fun _ => h.counterparts i⟩

/-- **An element renders to the same in both ways**, if what it holds and what it calls does, and
what it includes. -/
theorem matches_sameElement (henv : env.Raises P.raised) (h : OwnKin P t) (hn : n ∈ t.tree.nodes)
    (hheld : ∀ i, t.Holds n i → P.Matches Eq (self₁ t i .normal) (self₂ t i .normal))
    (hcalled : ∀ {name d₁ d₂}, n.directiveAttribute? "call" = some name →
      P.registered name d₁ d₂ →
      P.Matches Eq (self₁ d₁.template d₁.node .called) (self₂ d₂.template d₂.node .called))
    {id : Nat} (hregistered : ∀ name, n.directiveAttribute? "macro" = some name →
      P.registered name ⟨t, id⟩ ⟨t, id⟩)
    (hcdata : n.directive = some .cdata → P.Matches Eq (renderCData env t n) (renderCData env t n))
    (hembed : n.directive = some .embed →
      P.Matches Eq (renderEmbed (env.including fold₁ cache₁ limit₁) self₁ t n)
        (renderEmbed (env.including fold₂ cache₂ limit₂) self₂ t n)) (mode : Mode) :
    P.Matches Eq (renderNodeBody (env.including fold₁ cache₁ limit₁) self₁ t id n mode)
      (renderNodeBody (env.including fold₂ cache₂ limit₂) self₂ t id n mode) := by
  have hkin : P.Kin self₁ self₂ t t n n := h.kin hn fun i hi => hheld i (.child hi)
  have hinside : P.Inside self₁ self₂ t t n n := by
    refine ⟨?_, ?_, hcalled⟩
    · exact matches_sameDirectives fun i hi => matches_nodeAt_same h.missing i fun _ _ =>
        ⟨rfl, fun _ => hheld i (.child hi)⟩
    · refine matches_sameDirectives fun i hi => matches_nodeAt_same h.missing i fun _ _ =>
        ⟨rfl, fun _ => ?_⟩
      exact matches_nodeAt_same h.missing i fun m hm =>
        h.kin (List.mem_of_getElem? hm) fun j hj => hheld j (.param hi hm hj)
  exact matches_renderNodeBody henv hinside hkin hregistered hcdata hembed mode

/-- **An element renders to the same under two renderers**, if what it holds and what it calls does,
and the templates that it can include one level below. -/
theorem matches_sameBody (henv : env.Raises P.raised) (hsame : P.SameFiles) (h : OwnKin P t)
    (hn : n ∈ t.tree.nodes)
    (hheld : ∀ i, t.Holds n i → P.Matches Eq (self₁ t i .normal) (self₂ t i .normal))
    (hcalled : ∀ {name d₁ d₂}, n.directiveAttribute? "call" = some name →
      P.registered name d₁ d₂ →
      P.Matches Eq (self₁ d₁.template d₁.node .called) (self₂ d₂.template d₂.node .called))
    {id : Nat} (hregistered : ∀ name, n.directiveAttribute? "macro" = some name →
      P.registered name ⟨t, id⟩ ⟨t, id⟩)
    {template : String → Template → Prop} (hloads : env.Loads P.files template)
    (hincluded : (∃ l, P.level l ∧ l < env.config.maxIncludeDepth) → ∃ deeper : Nat → Prop,
      (∀ l, P.level l → deeper (l + 1)) ∧ (∀ l, deeper l → P.level (l - 1)) ∧
      ∀ path u i, template path u → u.tree.root = some (.node i) →
        (P.onLevels deeper).Matches Eq (self₁ u i .normal) (self₂ u i .normal)) (mode : Mode) :
    P.Matches Eq (renderNodeBody env self₁ t id n mode) (renderNodeBody env self₂ t id n mode) := by
  have hkin : P.Kin self₁ self₂ t t n n := h.kin hn fun i hi => hheld i (.child hi)
  refine @matches_sameElement env env.config.fold env.config.fold env.cache env.cache
    env.config.maxIncludeDepth env.config.maxIncludeDepth P t self₁ self₂ n henv h hn hheld hcalled
    id hregistered (fun _ => matches_renderCData henv hsame hkin) (fun _ => ?_) mode
  refine @matches_renderEmbed env env.config.fold env.config.fold env.cache env.cache
    _ _ _ _ _ _ _ _ _ henv hkin fun hlevel => ?_
  obtain ⟨deeper, hdown, hup, hroots⟩ := hincluded hlevel
  refine @matches_renderIncluded env env.config.fold env.config.fold env.cache env.cache
    _ _ _ _ _ _ _ _ _ hkin deeper hdown hup fun file => ?_
  refine @Matches.mono _ _ _ _ _ _ _ (matches_loadSame henv hsame hloads file) ?_
  rintro _ u ⟨rfl, hu⟩
  exact matches_sameRoot rfl fun i hi => hroots file u i hu hi

end Rendering

end TagTemplate
