import TagTemplate.Proofs.Render.Elements
import TagTemplate.Proofs.Template.Failures

/-!
# Directives beside each other

With renderers that agree on what stands inside, elements that say the same and are directives
render to the same. Only `include` looks at how templates are read and how deep they may be included
(`matches_renderEmbed`): what is read must render to the same. Only `cdata` looks at other files,
which must read the same.

- `Environment.including`: an environment that folds the templates it reads or not, with or without
  a cache, and includes them up to a level;
- `matches_renderNodeBody`: **elements that say the same render to the same**, if what is inside of
  them does;
- `matches_renderWith`: **counterparts render to the same**, if those inside of them do.
-/

namespace TagTemplate

/-- The environment that reads templates with or without folding, through a cache or not, and
includes them up to a level. -/
def Environment.including (env : Environment) (fold : Bool) (cache : Option Cache) (limit : Nat) :
    Environment :=
  { env with config := { env.config with fold, maxIncludeDepth := limit }, cache }

/-- The environment that reads templates with or without folding, through a cache or not. -/
def Environment.reading (env : Environment) (fold : Bool) (cache : Option Cache) : Environment :=
  { env with config := { env.config with fold }, cache }

namespace Rendering

open Pairing

variable {env : Environment} {fold₁ fold₂ : Bool} {cache₁ cache₂ : Option Cache}
  {limit₁ limit₂ : Nat} {P : Pairing} {t₁ t₂ : Template}
  {self₁ self₂ other₁ other₂ : NodeRenderer} {n₁ n₂ : Node}

/-! ## Attributes of directives -/

theorem required_eq (hn : P.Kin self₁ self₂ t₁ t₂ n₁ n₂) (name : String)
    (hname : ':' ∉ name.toList) : required n₁ name = required n₂ name := by
  rw [required, required, hn.attribute? name hname]

theorem matches_mount (name : String) (value : Value) :
    P.Matches Eq (mount name value) (mount name value) :=
  matches_change ⟨fun _ _ _ => rfl, fun _ => rfl⟩

theorem matches_setAttribute (name : String) (value : Option String) :
    P.Matches Eq (setAttribute name value)
      (setAttribute name value) := by
  refine matches_change ⟨fun s macros files => ?_, fun s => ?_⟩
  · dsimp only
    split <;> rfl
  · split <;> rfl

/-- In templates of one path a name stands for the same file on both sides. -/
theorem resolveFile_eq {s₁ s₂ : RenderState} (hs : P.Beside s₁ s₂)
    (hpath : t₁.sourcePath = t₂.sourcePath) (file : String) :
    resolveFile env t₁ s₁.files file = resolveFile env t₂ s₂.files file := by
  rw [resolveFile, resolveFile, hpath, hs.workingDirectory_eq]

theorem matches_namedFile (hn : P.Kin self₁ self₂ t₁ t₂ n₁ n₂) :
    P.Matches Eq (namedFile env t₁ n₁) (namedFile env t₂ n₂) := by
  unfold namedFile
  rw [required_eq hn "file" (by decide)]
  refine matches_bind matches_state fun s₁ s₂ hs => matches_pure ?_
  exact resolveFile_eq hs hn.sourcePath _

/-! ## Directives -/

theorem matches_renderCData (henv : env.Raises P.raised) (hsame : P.SameFiles)
    (hn : P.Kin self₁ self₂ t₁ t₂ n₁ n₂) :
    P.Matches Eq (renderCData env t₁ n₁) (renderCData env t₂ n₂) := by
  refine matches_bind (matches_namedFile hn) ?_
  rintro file _ rfl
  refine matches_bind matches_state fun s₁ s₂ hs => ?_
  rw [hs.files_eq hsame]
  exact matches_lift fun e he => henv.plain e ((FileStore.failsAs_readNamed _ _ e he).isPlain)

theorem matches_renderDictionary (hn : P.Kin self₁ self₂ t₁ t₂ n₁ n₂) :
    P.Matches Eq (renderDictionary env t₁ n₁)
      (renderDictionary env t₂ n₂) := by
  unfold renderDictionary
  rw [required_eq hn "name" (by decide)]
  refine matches_bind (matches_namedFile hn) ?_
  rintro file _ rfl
  refine matches_bind (matches_change ⟨fun _ _ _ => rfl, fun _ => rfl⟩) ?_
  exact fun _ _ _ => matches_pure rfl

theorem matches_feedParams (henv : env.Raises P.raised) (hn : P.Kin self₁ self₂ t₁ t₂ n₁ n₂)
    (hfeed : n₁.directive = some .feed) :
    P.Matches Eq (feedParams env n₁) (feedParams env n₂) := by
  unfold feedParams
  rw [hn.params hfeed]
  refine matches_foldlM (r := Eq) (List.forall₂_eq_eq_eq ▸ rfl) ?_ rfl
  rintro params _ ⟨name, expression⟩ _ rfl rfl
  refine matches_bind (matches_evaluate henv expression) ?_
  rintro value _ rfl
  exact matches_pure rfl

theorem matches_renderFeed (henv : env.Raises P.raised) (hn : P.Kin self₁ self₂ t₁ t₂ n₁ n₂)
    (hfeed : n₁.directive = some .feed) :
    P.Matches Eq (renderFeed env n₁) (renderFeed env n₂) := by
  unfold renderFeed
  rw [required_eq hn "class" (by decide), hn.attribute? "target" (by decide)]
  refine matches_bind (matches_feedParams henv hn hfeed) ?_
  rintro params _ rfl
  split
  · exact matches_throw (henv.plain _ trivial)
  · refine matches_bind (matches_lift fun e he => henv.fed _ _ _ e ‹_› he) ?_
    rintro value _ rfl
    exact matches_bind (matches_mount _ _) fun _ _ _ => matches_pure rfl

theorem matches_attributeValue (henv : env.Raises P.raised) (hn : P.Kin self₁ self₂ t₁ t₂ n₁ n₂) :
    P.Matches Eq (attributeValue env self₁ t₁ n₁)
      (attributeValue env self₂ t₂ n₂) := by
  unfold attributeValue
  rw [hn.attribute? "flag" (by decide), hn.attribute? "value" (by decide)]
  refine matches_bind (matches_evaluateTruth henv _) ?_
  rintro flag _ rfl
  split
  · exact matches_pure rfl
  · split
    · exact matches_map (matches_evaluateText henv _) fun _ _ => congrArg some
    · refine matches_bind (hn.children) ?_
      rintro content _ rfl
      exact matches_pure rfl

theorem matches_renderAttr (henv : env.Raises P.raised) (hn : P.Kin self₁ self₂ t₁ t₂ n₁ n₂) :
    P.Matches Eq (renderAttr env self₁ t₁ n₁)
      (renderAttr env self₂ t₂ n₂) := by
  unfold renderAttr
  rw [required_eq hn "name" (by decide)]
  refine matches_bind (matches_attributeValue henv hn) ?_
  rintro value _ rfl
  exact matches_bind (matches_setAttribute _ _) fun _ _ _ => matches_pure rfl

theorem matches_renderMount (henv : env.Raises P.raised) (hn : P.Kin self₁ self₂ t₁ t₂ n₁ n₂) :
    P.Matches Eq (renderMount env self₁ t₁ n₁)
      (renderMount env self₂ t₂ n₂) := by
  unfold renderMount
  rw [required_eq hn "target" (by decide), hn.attribute? "value" (by decide)]
  cases n₂.attribute? "value" with
  | some expression =>
    refine matches_bind (matches_evaluate henv expression) ?_
    rintro value _ rfl
    exact matches_bind (matches_mount _ _) fun _ _ _ => matches_pure rfl
  | none =>
    have hcontent := hn.children
    refine matches_bind (matches_map hcontent fun _ _ => congrArg Value.string) ?_
    rintro value _ rfl
    exact matches_bind (matches_mount _ _) fun _ _ _ => matches_pure rfl

theorem matches_renderTrans (henv : env.Raises P.raised) (hn : P.Kin self₁ self₂ t₁ t₂ n₁ n₂) :
    P.Matches Eq (renderTrans env self₁ t₁ n₁)
      (renderTrans env self₂ t₂ n₂) := by
  unfold renderTrans
  rw [hn.attribute? "key" (by decide), hn.attribute? "source" (by decide), hn.transSource]
  refine matches_bind (hn.children) ?_
  rintro content _ rfl
  cases env.translator with
  | none => exact matches_pure rfl
  | some translate =>
    cases n₂.attribute? "key" with
    | some key =>
      refine matches_bind (matches_interpolate henv key) ?_
      rintro key _ rfl
      refine matches_bind matches_state fun s₁ s₂ hs => ?_
      rw [hs.rest]
      exact matches_pure rfl
    | none =>
      refine matches_bind (matches_pure rfl) ?_
      rintro key _ rfl
      refine matches_bind matches_state fun s₁ s₂ hs => ?_
      rw [hs.rest]
      exact matches_pure rfl

/-! ## Included templates -/

/-- Renders another template in place, on whatever level. -/
def renderIncluded (env : Environment) (self : NodeRenderer) (template : Template) (node : Node) :
    Rendering String := do
  let file ← namedFile env template node
  let included ← load env file
  withInclude (renderTemplate self included)

/-- The limit is looked at when the file is known. -/
theorem outcome_renderEmbed (env : Environment) (self : NodeRenderer) (template : Template)
    (node : Node) (s : RenderState) :
    (renderEmbed env self template node).outcome s =
      if env.config.maxIncludeDepth ≤ s.includeDepth then
        (.error (.includeDepth (resolveFile env template s.files (required node "file"))
          env.config.maxIncludeDepth), s)
      else (renderIncluded env self template node).outcome s := by
  have hfile : (namedFile env template node).outcome s =
      (.ok (resolveFile env template s.files (required node "file")), s) := rfl
  have hget : outcome get s = (.ok s, s) := rfl
  unfold renderEmbed renderIncluded
  rw [outcome_bind, outcome_bind, hfile]
  dsimp only
  rw [outcome_bind, hget]
  dsimp only
  split <;> rfl

/-- On the last level no other template is rendered. -/
theorem outcome_renderEmbed_of_le (env : Environment) {self : NodeRenderer} {template : Template}
    {node : Node} {s : RenderState} (h : env.config.maxIncludeDepth ≤ s.includeDepth) :
    (renderEmbed env self template node).outcome s =
      (.error (.includeDepth (resolveFile env template s.files (required node "file"))
        env.config.maxIncludeDepth), s) := by
  rw [outcome_renderEmbed, if_pos h]

/-- Above the last level another template is rendered in place. -/
theorem outcome_renderEmbed_of_lt (env : Environment) {self : NodeRenderer} {template : Template}
    {node : Node} {s : RenderState} (h : s.includeDepth < env.config.maxIncludeDepth) :
    (renderEmbed env self template node).outcome s =
      (renderIncluded env self template node).outcome s := by
  rw [outcome_renderEmbed, if_neg (Nat.not_le.2 h)]

/-- Reading renders to the same what both sides read, on the level below. -/
theorem matches_renderIncluded (hn : P.Kin other₁ other₂ t₁ t₂ n₁ n₂) {deeper : Nat → Prop}
    (hdown : ∀ l, P.level l → deeper (l + 1)) (hup : ∀ l, deeper l → P.level (l - 1))
    (hload : ∀ file, P.Matches
      (fun included₁ included₂ => (P.onLevels deeper).Matches Eq (renderTemplate self₁ included₁)
        (renderTemplate self₂ included₂))
      (load (env.reading fold₁ cache₁) file) (load (env.reading fold₂ cache₂) file)) :
    P.Matches Eq (renderIncluded (env.reading fold₁ cache₁) self₁ t₁ n₁)
      (renderIncluded (env.reading fold₂ cache₂) self₂ t₂ n₂) := by
  have hfile : P.Matches Eq (namedFile env t₁ n₁) (namedFile env t₂ n₂) := matches_namedFile hn
  refine matches_bind hfile ?_
  rintro file _ rfl
  refine matches_bind (hload file) fun included₁ included₂ hincluded => ?_
  exact matches_withInclude hdown hup hincluded

/-- Templates are included on both sides or on none; only where they are, something is read. -/
theorem matches_renderEmbed (henv : env.Raises P.raised) (hn : P.Kin other₁ other₂ t₁ t₂ n₁ n₂)
    (hincluded : (∃ l, P.level l ∧ l < env.config.maxIncludeDepth) →
      P.Matches Eq (renderIncluded (env.reading fold₁ cache₁) self₁ t₁ n₁)
        (renderIncluded (env.reading fold₂ cache₂) self₂ t₂ n₂)) :
    P.Matches Eq (renderEmbed (env.reading fold₁ cache₁) self₁ t₁ n₁)
      (renderEmbed (env.reading fold₂ cache₂) self₂ t₂ n₂) := by
  intro s₁ s₂ (hs : P.Beside s₁ s₂)
  have hfile : resolveFile env t₁ s₁.files (required n₁ "file") =
      resolveFile env t₂ s₂.files (required n₂ "file") := by
    rw [required_eq hn "file" (by decide)]
    exact resolveFile_eq hs hn.sourcePath _
  have hlevel : s₂.includeDepth = s₁.includeDepth :=
    (congrArg RenderState.includeDepth hs.rest :)
  rcases Nat.lt_or_ge s₁.includeDepth env.config.maxIncludeDepth with hlimit | hlimit
  · rw [outcome_renderEmbed_of_lt (env.reading fold₁ cache₁) hlimit,
      outcome_renderEmbed_of_lt (env.reading fold₂ cache₂) (hlevel ▸ hlimit)]
    exact hincluded ⟨_, hs.level, hlimit⟩ s₁ s₂ hs
  · rw [outcome_renderEmbed_of_le (env.reading fold₁ cache₁) hlimit,
      outcome_renderEmbed_of_le (env.reading fold₂ cache₂) (hlevel ▸ hlimit)]
    refine .inr ⟨.error ?_, hs⟩
    show P.error (.includeDepth (resolveFile env t₁ s₁.files (required n₁ "file")) _)
      (.includeDepth (resolveFile env t₂ s₂.files (required n₂ "file")) _)
    rw [hfile]
    exact P.error_refl _ (henv.plain _ trivial)

/-! ## Elements of all kinds -/

theorem matches_renderDirective (henv : env.Raises P.raised) (hn : P.Kin self₁ self₂ t₁ t₂ n₁ n₂)
    (hcdata : n₁.directive = some .cdata →
      P.Matches Eq (renderCData env t₁ n₁) (renderCData env t₂ n₂))
    (hembed : n₁.directive = some .embed →
      P.Matches Eq (renderEmbed (env.including fold₁ cache₁ limit₁) self₁ t₁ n₁)
        (renderEmbed (env.including fold₂ cache₂ limit₂) self₂ t₂ n₂))
    {directive : Directive} (hdirective : n₁.directive = some directive) :
    P.Matches Eq (renderDirective (env.including fold₁ cache₁ limit₁) self₁ t₁ n₁ directive)
      (renderDirective (env.including fold₂ cache₂ limit₂) self₂ t₂ n₂ directive) := by
  cases directive with
  | attr =>
    show P.Matches Eq (renderAttr env self₁ t₁ n₁) (renderAttr env self₂ t₂ n₂)
    exact matches_renderAttr henv hn
  | cdata => exact hcdata hdirective
  | dictionary =>
    show P.Matches Eq (renderDictionary env t₁ n₁) (renderDictionary env t₂ n₂)
    exact matches_renderDictionary hn
  | feed =>
    show P.Matches Eq (renderFeed env n₁) (renderFeed env n₂)
    exact matches_renderFeed henv hn hdirective
  | embed => exact hembed hdirective
  | mount =>
    show P.Matches Eq (renderMount env self₁ t₁ n₁) (renderMount env self₂ t₂ n₂)
    exact matches_renderMount henv hn
  | param => exact matches_pure rfl
  | trans =>
    show P.Matches Eq (renderTrans env self₁ t₁ n₁) (renderTrans env self₂ t₂ n₂)
    exact matches_renderTrans henv hn
  | val =>
    show P.Matches Eq (evaluateText env (required n₁ "value"))
      (evaluateText env (required n₂ "value"))
    rw [required_eq hn "value" (by decide)]
    exact matches_evaluateText henv _

/-- What an element renders to before its errors are annotated. -/
def renderNodeBody (env : Environment) (self : NodeRenderer) (template : Template) (id : Nat)
    (node : Node) (mode : Mode) : Rendering String :=
  match node.directive with
  | some directive => renderDirective env self template node directive
  | none => renderPlain env self template id node mode

/-- **Elements that say the same render to the same**, if what is inside of them does. -/
theorem matches_renderNodeBody (henv : env.Raises P.raised) (h : P.Inside self₁ self₂ t₁ t₂ n₁ n₂)
    (hn : P.Kin self₁ self₂ t₁ t₂ n₁ n₂) {i₁ i₂ : Nat}
    (hi : ∀ name, n₂.directiveAttribute? "macro" = some name →
      P.registered name ⟨t₁, i₁⟩ ⟨t₂, i₂⟩)
    (hcdata : n₁.directive = some .cdata →
      P.Matches Eq (renderCData env t₁ n₁) (renderCData env t₂ n₂))
    (hembed : n₁.directive = some .embed →
      P.Matches Eq (renderEmbed (env.including fold₁ cache₁ limit₁) self₁ t₁ n₁)
        (renderEmbed (env.including fold₂ cache₂ limit₂) self₂ t₂ n₂)) (mode : Mode) :
    P.Matches Eq (renderNodeBody (env.including fold₁ cache₁ limit₁) self₁ t₁ i₁ n₁ mode)
      (renderNodeBody (env.including fold₂ cache₂ limit₂) self₂ t₂ i₂ n₂ mode) := by
  unfold renderNodeBody
  rw [← hn.directive]
  cases hdirective : n₁.directive with
  | none =>
    show P.Matches Eq (renderPlain env self₁ t₁ i₁ n₁ mode) (renderPlain env self₂ t₂ i₂ n₂ mode)
    exact matches_renderPlain henv h hn hi mode
  | some directive => exact matches_renderDirective henv hn hcdata hembed hdirective

/-- **Counterparts render to the same**, if what is inside of them does. -/
theorem matches_renderWith (henv : env.Raises P.raised) (hsame : P.SameFiles)
    (h : P.Renderers self₁ self₂) (hlevel : ∀ l, P.level l) (hload : ∀ file, P.Matches
      (fun included₁ included₂ => P.Matches Eq (renderTemplate self₁ included₁)
        (renderTemplate self₂ included₂))
      (load (env.reading fold₁ cache₁) file) (load (env.reading fold₂ cache₂) file))
    {i₁ i₂ : Nat} (hi : P.counterparts t₁ t₂ i₁ i₂) (mode : Mode) :
    P.Matches Eq (renderWith (env.reading fold₁ cache₁) self₁ t₁ i₁ mode)
      (renderWith (env.reading fold₂ cache₂) self₂ t₂ i₂ mode) := by
  refine matches_bind (h.nodes hi) fun n₁ n₂ hn => ?_
  refine matches_adapt hn.annotated hn.stops ?_
  refine @matches_renderNodeBody env fold₁ fold₂ cache₁ cache₂ env.config.maxIncludeDepth
    env.config.maxIncludeDepth _ _ _ _ _ _ _ henv (h.inside hn) hn _ _
    (fun _ _ => h.registered.2 hi)
    (fun _ => matches_renderCData henv hsame hn) (fun _ => ?_) mode
  exact matches_renderEmbed henv hn fun _ =>
    matches_renderIncluded hn (fun l _ => hlevel (l + 1)) (fun l _ => hlevel (l - 1)) hload

end Rendering

end TagTemplate
