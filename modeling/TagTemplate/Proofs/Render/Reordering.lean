import TagTemplate.Proofs.Function.Reordering
import TagTemplate.Proofs.Render.Inclusion
import TagTemplate.Proofs.Render.Reordered

/-!
# Elements and the order of the universe

An element does not depend on the order of the universe's entries as long as no expression of it
reads the universe as a whole, and the elements inside of it do not either. A walk and a call put
one layer more on, and what `.` and `..` are depends on how many there are.

- `Node.Evaluates`: the expressions of an element, with the layers that its walk puts on;
- `Environment.Overlooks`: expressions that never read the universe as a whole under so many layers;
- `Known.Inside`: what stands inside of an element, and what it calls, does not depend on the order;
- `indifferent_renderWith`: **an element does not depend on it** then.
-/

namespace TagTemplate

open Rendering

/-! ## Expressions of elements -/

/-- The layers that the walk of an element puts on. Directives are not walked. -/
def Node.walkLayers (n : Node) : Nat :=
  if n.directive = none ∧ (n.directiveAttribute? "walk").isSome then 1 else 0

/-- The attributes of the template language that hold an expression, but `walk`. -/
def guardNames : List String := ["cond", "append", "text", "mute", "void"]

/-- The directives that evaluate their attribute `value`. -/
def valuedDirectives : List Directive := [.attr, .mount, .param]

/-- The expressions that an element evaluates, each with the layers that are put on for it. -/
inductive Node.Evaluates (n : Node) : Nat → String → Prop
  | walk {e : String} : n.directive = none → n.directiveAttribute? "walk" = some e → Evaluates n 0 e
  | guard {name e : String} : n.directive = none → name ∈ guardNames →
    n.directiveAttribute? name = some e → Evaluates n n.walkLayers e
  | argument {name : String} {entry : String × String} : n.directive = none →
    n.directiveAttribute? "call" = some name → entry ∈ n.plainAttributes →
    Evaluates n n.walkLayers entry.2
  | written {entry : String × String} {text : List Char} : n.directive = none →
    n.directiveAttribute? "call" = none → entry ∈ n.plainAttributes →
    .expression text ∈ pieces entry.2 → Evaluates n n.walkLayers (String.ofList text)
  | value {d : Directive} {e : String} : n.directive = some d → d ∈ valuedDirectives →
    n.attribute? "value" = some e → Evaluates n 0 e
  | val : n.directive = some .val → Evaluates n 0 (required n "value")
  | flag {e : String} : n.directive = some .attr → n.attribute? "flag" = some e → Evaluates n 0 e
  | feed {entry : String × String} : n.directive = some .feed → entry ∈ n.attributes.entries →
    entry.1 ≠ "class" ∧ entry.1 ≠ "target" → Evaluates n 0 entry.2
  | key {raw : String} {text : List Char} : n.directive = some .trans →
    n.attribute? "key" = some raw → .expression text ∈ pieces raw →
    Evaluates n 0 (String.ofList text)

/-- The element is registered under the name when it is met in this mode, and no more is done. -/
def Node.Registers (n : Node) (mode : Mode) (name : String) : Prop :=
  mode = .normal ∧ n.directive = none ∧ n.directiveAttribute? "macro" = some name

/-- The element is worked through when it is met in this mode. -/
structure Template.Opens (t : Template) (i : Nat) (mode : Mode) (n : Node) : Prop where
  node : t.tree.node? i = some n
  unregistered : ∀ name, ¬ n.Registers mode name

/-- Directives are not registered. -/
theorem Template.Opens.of_directive {t : Template} {i : Nat} {mode : Mode} {n : Node}
    {directive : Directive} (hn : t.tree.node? i = some n)
    (hdirective : n.directive = some directive) : t.Opens i mode n :=
  ⟨hn, fun _ ⟨_, hplain, _⟩ => nomatch hplain.symm.trans hdirective⟩

/-- Under so many layers, the expression never reads the universe as a whole. -/
def Environment.Overlooks (env : Environment) (layers : Nat) (expression : String) : Prop :=
  ∀ scope iteration, scope.layers.length = layers →
    Expr.Overlooks ⟨scope, env.functions, iteration⟩ expression.toList

namespace Known

variable {α β : Type} {K : Known} {l : Nat}

/-! ## Expressions -/

section Expressions

variable {env : Environment}

/-- **An expression that does not read the universe as a whole gives the same.** -/
theorem indifferent_evaluate (henv : env.functions.IgnoresOrder) {expression : String}
    (h : env.Overlooks l expression) : K.Indifferent l (evaluate env expression) := by
  refine matches_bind matches_get fun s₁ s₂ (hs : K.Reordered l s₁ s₂) => ?_
  have hreordered : Expr.Env.Reordered ⟨s₁.scope, env.functions, s₁.iterations.head?⟩
      ⟨s₂.scope, env.functions, s₁.iterations.head?⟩ :=
    ⟨hs.scope, fun name => Registry.call_reordered henv hs.scope name _⟩
  have hiterations : s₂.iterations = s₁.iterations := (congrArg RenderState.iterations hs.rest :)
  rw [hiterations, ← Expr.evaluate_reordered hreordered (h _ _ hs.layers)]
  exact indifferent_lift _

theorem indifferent_evaluateText (henv : env.functions.IgnoresOrder) {expression : String}
    (h : env.Overlooks l expression) : K.Indifferent l (evaluateText env expression) :=
  indifferent_map _ (indifferent_evaluate henv h)

theorem indifferent_evaluateTruth (henv : env.functions.IgnoresOrder) {expression : Option String}
    (h : ∀ e, expression = some e → env.Overlooks l e) :
    K.Indifferent l (evaluateTruth env expression) := by
  cases expression with
  | none => exact indifferent_pure false
  | some e => exact indifferent_map _ (indifferent_evaluate henv (h e rfl))

theorem indifferent_interpolate (henv : env.functions.IgnoresOrder) {raw : String}
    (h : ∀ text, .expression text ∈ pieces raw → env.Overlooks l (String.ofList text)) :
    K.Indifferent l (interpolate env raw) := by
  refine indifferent_map _ (indifferent_mapM fun piece hpiece => ?_)
  cases piece with
  | literal text => exact indifferent_pure _
  | expression text => exact indifferent_evaluateText henv (h text hpiece)
  | unclosed => exact indifferent_throw _

theorem indifferent_mount (name : String) (value : Value) : K.Indifferent l (mount name value) :=
  matches_modify fun _ _ (hs : K.Reordered l _ _) =>
    hs.rescope (f := fun scope => scope.mount name value) (hs.scope.mount name value) hs.layers

end Expressions

/-! ## Children -/

section Children

variable {env : Environment} {self : NodeRenderer} {t : Template} {n : Node}

theorem indifferent_renderChildren {children : List Child}
    (h : ∀ i, .node i ∈ children → K.Indifferent l (self t i .normal)) :
    K.Indifferent l (renderChildren self t children) := by
  induction children with
  | nil => exact indifferent_pure ""
  | cons child children ih =>
    have hrest := ih fun i hi => h i (List.mem_cons_of_mem _ hi)
    cases child with
    | text content => exact indifferent_bind hrest fun _ => indifferent_pure _
    | node id =>
      exact indifferent_bind (h id List.mem_cons_self) fun _ =>
        indifferent_bind hrest fun _ => indifferent_pure _

/-- Both sides find the same directives among the children. -/
theorem indifferent_directiveChildren {directive : Directive} {children : List Child}
    {f : List Nat → Rendering α}
    (h : ∀ ids, (∀ i ∈ ids, .node i ∈ children ∧
      ∃ m, t.tree.node? i = some m ∧ m.directive = some directive) → K.Indifferent l (f ids)) :
    K.Indifferent l (directiveChildren t directive children >>= f) := by
  -- which children there are is read from the template alone
  have hids : Matches (K.comparison l) (fun ids₁ ids₂ => ids₁ = ids₂ ∧ ∀ i ∈ ids₁,
      .node i ∈ children ∧ ∃ m, t.tree.node? i = some m ∧ m.directive = some directive)
      (directiveChildren t directive children) (directiveChildren t directive children) := by
    clear h
    induction children with
    | nil => exact matches_pure ⟨rfl, fun _ hi => absurd hi List.not_mem_nil⟩
    | cons child children ih =>
      have hrest := ih.mono fun ids₁ ids₂ ⟨hsame, hmem⟩ => And.intro hsame fun i hi =>
        (hmem i hi).imp_left (List.mem_cons_of_mem child)
      cases child with
      | text content => exact hrest
      | node id =>
        unfold directiveChildren nodeAt
        cases hm : t.tree.node? id with
        | none => exact matches_bind (matches_throw trivial) fun _ _ h => h
        | some m =>
          refine matches_bind (r := fun m₁ m₂ => m₁ = m ∧ m₂ = m) (matches_pure ⟨rfl, rfl⟩) ?_
          rintro _ _ ⟨hm₁, hm₂⟩
          subst hm₁ hm₂
          refine matches_bind hrest ?_
          rintro ids _ ⟨rfl, hmem⟩
          refine matches_pure ⟨rfl, fun i hi => ?_⟩
          split at hi
          · rcases List.mem_cons.1 hi with rfl | hi
            · exact ⟨List.mem_cons_self, _, hm, ‹_›⟩
            · exact hmem i hi
          · exact hmem i hi
  refine matches_bind hids ?_
  rintro ids _ ⟨rfl, hmem⟩
  exact h ids hmem

end Children

/-! ## Elements -/

/-- What stands inside of an element, and what it calls, does not depend on the order of the
universe. -/
structure Inside (K : Known) (env : Environment) (inner : NodeRenderer) (layers : Nat)
    (t : Template) (n : Node) : Prop where
  held : ∀ i, t.Holds n i → K.Indifferent layers (inner t i .normal)
  values : ∀ p m e, .node p ∈ n.children → t.tree.node? p = some m → m.directive = some .param →
    m.attribute? "value" = some e → env.Overlooks layers e
  called : ∀ name m, n.directiveAttribute? "call" = some name → K.registered name m →
    K.Indifferent (layers + 1) (inner m.template m.node .called)

section Elements

variable {env : Environment} {self : NodeRenderer} {t : Template} {n : Node}
  (henv : env.functions.IgnoresOrder) (h : K.Inside env self l t n) (hplain : n.directive = none)
  (hlooks : ∀ e, n.Evaluates n.walkLayers e → env.Overlooks l e)

include henv hplain hlooks

theorem indifferent_guard {name : String} (hname : name ∈ guardNames) :
    K.Indifferent l (evaluateTruth env (n.directiveAttribute? name)) :=
  indifferent_evaluateTruth henv fun e he => hlooks e (.guard hplain hname he)

omit henv hplain hlooks in
theorem indifferent_noteDoctype (n : Node) : K.Indifferent l (noteDoctype n) := by
  unfold noteDoctype
  cases n.directiveAttribute? "doctype" with
  | none => exact indifferent_modify ⟨fun _ _ => rfl, fun _ => rfl, fun _ => rfl⟩
  | some doctype =>
    refine indifferent_modify ⟨fun s scope => ?_, fun s => ?_, fun s => ?_⟩
    · dsimp only
      split <;> rfl
    · dsimp only
      split <;> rfl
    · dsimp only
      split <;> rfl

theorem indifferent_envelope (hcall : n.directiveAttribute? "call" = none) (body : String)
    (made : Frame) : K.Indifferent l (envelope env n body made) := by
  refine indifferent_bind (indifferent_noteDoctype n) fun _ => ?_
  refine indifferent_bind (indifferent_foldlM (fun frame entry hentry => ?_) _) fun own => ?_
  · refine indifferent_bind (indifferent_interpolate henv fun text htext => ?_) fun value =>
      indifferent_pure _
    exact hlooks _ (.written hplain hcall hentry htext)
  · refine indifferent_bind (indifferent_guard henv hplain hlooks (by decide)) fun void => ?_
    split
    · exact indifferent_pure _
    · split <;> exact indifferent_pure _

include h

theorem indifferent_renderBody : K.Indifferent l (renderBody env self t n) := by
  unfold renderBody
  cases htext : n.directiveAttribute? "text" with
  | none => exact indifferent_renderChildren fun i hi => h.held i (.child hi)
  | some e =>
    refine indifferent_directiveChildren fun ids hids => ?_
    refine indifferent_bind (indifferent_forIn fun i hi => ?_) fun _ =>
      indifferent_evaluateText henv (hlooks e (.guard hplain (by decide) htext))
    exact indifferent_bind (h.held i (.child (hids i hi).1)) fun _ => indifferent_pure _

theorem indifferent_renderElement (hcall : n.directiveAttribute? "call" = none) :
    K.Indifferent l (renderElement env self t n) := by
  have hbody := indifferent_withFrame (indifferent_renderBody henv h hplain hlooks)
  refine indifferent_bind hbody ?_
  rintro ⟨body, made⟩
  dsimp only
  split
  · exact indifferent_pure body
  · refine indifferent_bind (indifferent_guard henv hplain hlooks (by decide)) fun mute => ?_
    split
    · exact indifferent_pure body
    · exact indifferent_envelope henv hplain hlooks hcall body made

theorem indifferent_callArguments {name : String}
    (hcall : n.directiveAttribute? "call" = some name) :
    K.Indifferent l (callArguments env self t n) := by
  refine indifferent_bind (indifferent_foldlM (fun layer entry hentry => ?_) _) fun named => ?_
  · exact indifferent_bind
      (indifferent_evaluate henv (hlooks _ (.argument hplain hcall hentry))) fun value =>
        indifferent_pure _
  · refine indifferent_directiveChildren fun params hparams => ?_
    refine indifferent_foldlM (fun layer p hp => ?_) _
    obtain ⟨hmem, m, hm, hparam⟩ := hparams p hp
    refine indifferent_nodeAt fun m' hm' => ?_
    obtain rfl : m = m' := Option.some.inj (hm.symm.trans hm')
    cases hvalue : m.attribute? "value" with
    | some e =>
      have hlooked := h.values p m e hmem hm hparam hvalue
      exact indifferent_bind (indifferent_evaluate henv hlooked) fun value => indifferent_pure _
    | none =>
      have hchildren : K.Indifferent l (renderChildren self t m.children) :=
        indifferent_renderChildren fun i hi => h.held i (.param hmem hm hi)
      exact indifferent_bind (indifferent_map _ hchildren) fun value => indifferent_pure _

theorem indifferent_renderCall {name : String} (hcall : n.directiveAttribute? "call" = some name) :
    K.Indifferent l (renderCall env self t n name) := by
  refine indifferent_get (fun _ _ => rfl) fun s hmacros => ?_
  cases hm : s.macros.get? name with
  | none => exact indifferent_throw _
  | some m =>
    refine indifferent_bind (indifferent_callArguments henv h hplain hlooks hcall) fun layer => ?_
    exact indifferent_withLayer _ (h.called name m hcall (hmacros name m hm))

theorem indifferent_renderPlug (hcall : n.directiveAttribute? "call" = none) (name : String) :
    K.Indifferent l (renderPlug env self t n name) := by
  refine indifferent_bind (indifferent_renderElement henv h hplain hlooks hcall) fun content => ?_
  refine indifferent_bind (indifferent_guard henv hplain hlooks (by decide)) fun append => ?_
  exact indifferent_bind
    (indifferent_modify ⟨fun _ _ => rfl, fun _ => rfl, fun _ => rfl⟩) fun _ => indifferent_pure ""

theorem indifferent_renderSlot (hcall : n.directiveAttribute? "call" = none) (name : String) :
    K.Indifferent l (renderSlot env self t n name) := by
  have helement := indifferent_renderElement henv h hplain hlooks hcall
  refine indifferent_get (fun _ _ => rfl) fun s _ => ?_
  dsimp only
  cases s.slots.recordSlot name with
  | mk anchor slots =>
    cases anchor with
    | none => exact helement
    | some anchor =>
      refine indifferent_bind (indifferent_modify ⟨fun _ _ => rfl, fun _ => rfl, fun _ => rfl⟩)
        fun _ => indifferent_bind helement fun content => ?_
      exact indifferent_bind (indifferent_modify ⟨fun _ _ => rfl, fun _ => rfl, fun _ => rfl⟩)
        fun _ => indifferent_pure _

/-- What is done once the condition is known. -/
theorem indifferent_conditional (holds : Bool) : K.Indifferent l
    (if !holds then pure ""
      else match n.directiveAttribute? "call" with
      | some name => renderCall env self t n name
      | none =>
        match n.directiveAttribute? "plug" with
        | some name => renderPlug env self t n name
        | none =>
          match n.directiveAttribute? "slot" with
          | some name => renderSlot env self t n name
          | none => renderElement env self t n) := by
  split
  · exact indifferent_pure ""
  · cases hcall : n.directiveAttribute? "call" with
    | some name => exact indifferent_renderCall henv h hplain hlooks hcall
    | none =>
      dsimp only
      split
      · exact indifferent_renderPlug henv h hplain hlooks hcall _
      · split
        · exact indifferent_renderSlot henv h hplain hlooks hcall _
        · exact indifferent_renderElement henv h hplain hlooks hcall

theorem indifferent_renderGuarded : K.Indifferent l (renderGuarded env self t n) := by
  unfold renderGuarded
  cases hcond : n.directiveAttribute? "cond" with
  | none =>
    exact indifferent_bind (indifferent_pure true) (indifferent_conditional henv h hplain hlooks)
  | some e =>
    have hlooked : env.Overlooks l e := hlooks e (.guard hplain (by decide) hcond)
    exact indifferent_bind (indifferent_map _ (indifferent_evaluate henv hlooked))
      (indifferent_conditional henv h hplain hlooks)

end Elements

/-! ## Walks and macros -/

section Plain

variable {env : Environment} {self : NodeRenderer} {t : Template} {n : Node}

/-- Every item is rendered with its layer on. -/
theorem indifferent_forItems {action : Rendering String} (h : K.Indifferent (l + 1) action)
    (count position : Nat) (items : List (Value × Value)) :
    K.Indifferent l (forItems action count position items) := by
  induction items generalizing position with
  | nil => exact indifferent_pure []
  | cons entry items ih =>
    refine indifferent_bind (indifferent_withLayer _ (indifferent_during ?_ ?_ h)) fun output => ?_
    · exact ⟨fun _ _ => rfl, fun _ => rfl, fun _ => rfl⟩
    · exact ⟨fun _ _ => rfl, fun _ => rfl, fun _ => rfl⟩
    · exact indifferent_bind (ih _) fun outputs => indifferent_pure _

theorem indifferent_renderWalk (henv : env.functions.IgnoresOrder) {action : Rendering String}
    (h : K.Indifferent (l + 1) action) {expression : String} (hlooks : env.Overlooks l expression) :
    K.Indifferent l (renderWalk env action n expression) := by
  refine indifferent_bind (indifferent_evaluate henv hlooks) fun value => ?_
  refine indifferent_bind (indifferent_lift _) fun items => ?_
  exact indifferent_bind (indifferent_forItems h _ _ _) fun outputs => indifferent_pure _

variable (henv : env.functions.IgnoresOrder) (hplain : n.directive = none)
  (hlooks : ∀ put e, n.Evaluates put e → env.Overlooks (l + put) e)
  (h : K.Inside env self (l + n.walkLayers) t n)

include henv hplain hlooks h

theorem indifferent_unregistered : K.Indifferent l
    (match n.directiveAttribute? "walk" with
      | some expression => renderWalk env (renderGuarded env self t n) n expression
      | none => renderGuarded env self t n) := by
  have hguarded : K.Indifferent (l + n.walkLayers) (renderGuarded env self t n) :=
    indifferent_renderGuarded henv h hplain fun e he => hlooks _ e he
  unfold Node.walkLayers at hguarded
  cases hwalk : n.directiveAttribute? "walk" with
  | some expression =>
    rw [hwalk, if_pos ⟨hplain, rfl⟩] at hguarded
    exact indifferent_renderWalk henv hguarded (hlooks 0 expression (.walk hplain hwalk))
  | none =>
    rw [hwalk, if_neg (by simp)] at hguarded
    exact hguarded

omit henv hplain hlooks h in
theorem indifferent_register {name : String} {m : Macro} (hm : K.registered name m) :
    K.Indifferent l (modify fun s => { s with macros := s.macros.insert name m }) := by
  refine matches_modify fun s₁ s₂ (hs : K.Reordered l s₁ s₂) => ?_
  refine ⟨?_, hs.scope, hs.layers, fun other m' hm' => ?_, hs.files⟩
  · exact congrArg (fun s : RenderState => { s with macros := s.macros.insert name m }) hs.rest
  · replace hm' : (s₁.macros.insert name m).get? other = some m' := hm'
    rw [OrderedMap.get?_insert] at hm'
    split at hm'
    · rename_i hname
      cases hm'
      exact hname ▸ hm
    · exact hs.macros other m' hm'

omit henv hlooks h in
/-- An element that is not registered is worked through. -/
theorem indifferent_renderPlain {i : Nat} {mode : Mode}
    (hregistered : ∀ name, n.Registers mode name → K.registered name ⟨t, i⟩)
    (hopened : (∀ name, ¬ n.Registers mode name) → K.Indifferent l
      (match n.directiveAttribute? "walk" with
        | some expression => renderWalk env (renderGuarded env self t n) n expression
        | none => renderGuarded env self t n)) :
    K.Indifferent l (renderPlain env self t i n mode) := by
  unfold renderPlain
  cases mode with
  | called => exact hopened fun _ ⟨hmode, _⟩ => nomatch hmode
  | normal =>
    cases hmacro : n.directiveAttribute? "macro" with
    | none => exact hopened fun _ ⟨_, _, hname⟩ => nomatch hmacro.symm.trans hname
    | some name =>
      exact indifferent_bind (indifferent_register (hregistered name ⟨rfl, hplain, hmacro⟩))
        fun _ => indifferent_pure ""

end Plain

/-! ## Directives -/

section Directives

variable {env : Environment} {self : NodeRenderer} {t : Template} {n : Node}

/-- An attribute is made in the innermost frame. -/
theorem indifferent_setAttribute (name : String) (value : Option String) :
    K.Indifferent l (setAttribute name value) := by
  refine indifferent_modify ⟨fun s scope => ?_, fun s => ?_, fun s => ?_⟩
  · obtain ⟨old, slots, macros, dictionaries, iterations, frames, depth, doctype, files⟩ := s
    cases frames <;> rfl
  · split <;> rfl
  · split <;> rfl

theorem indifferent_namedFile {f : String → Rendering α} (h : ∀ file, K.Indifferent l (f file)) :
    K.Indifferent l (namedFile env t n >>= f) := by
  have hfile : K.Indifferent l (namedFile env t n) :=
    indifferent_get (fun _ _ => rfl) fun _ _ => indifferent_pure _
  exact indifferent_bind hfile h

theorem indifferent_renderCData : K.Indifferent l (renderCData env t n) :=
  indifferent_namedFile fun _ => indifferent_get (fun _ _ => rfl) fun _ _ => indifferent_lift _

theorem indifferent_renderDictionary : K.Indifferent l (renderDictionary env t n) :=
  indifferent_namedFile fun _ =>
    indifferent_bind (indifferent_modify ⟨fun _ _ => rfl, fun _ => rfl, fun _ => rfl⟩) fun _ =>
      indifferent_pure ""

theorem indifferent_renderTemplate {u : Template}
    (h : ∀ i, u.tree.root = some (.node i) → K.Indifferent l (self u i .normal)) :
    K.Indifferent l (renderTemplate self u) := by
  unfold renderTemplate
  split
  · exact h _ ‹_›
  · exact indifferent_pure _
  · exact indifferent_pure ""

/-- Both sides load the same template, and what is loaded gives the same. -/
theorem indifferent_renderEmbed {i : Nat} (hn : t.tree.node? i = some n)
    (hembed : n.directive = some .embed)
    (hfiles : ∀ s path, K.files s → K.files (loadTemplate env.cache s path env.config.fold).2)
    (hincluded : ∀ s u j, K.files s → env.included? s t i = some u → u.tree.root = some (.node j) →
      K.Indifferent l (self u j .normal)) : K.Indifferent l (renderEmbed env self t n) := by
  intro s₁ s₂ (hs : K.Reordered l s₁ s₂)
  have hlevel : s₂.includeDepth = s₁.includeDepth := (congrArg RenderState.includeDepth hs.rest :)
  rw [outcome_renderEmbed, outcome_renderEmbed, hlevel, hs.files_eq]
  split
  · exact .inr ⟨.error rfl, hs⟩
  · rw [outcome_renderIncluded, outcome_renderIncluded, hs.files_eq]
    generalize hfile : resolveFile env t s₁.files (required n "file") = file
    have hload : ∀ s, (load env file).outcome s =
        ((loadTemplate env.cache s.files file env.config.fold).1.map Loaded.template,
          { s with files := (loadTemplate env.cache s.files file env.config.fold).2 }) :=
      fun _ => rfl
    have hs' : K.Reordered l
        { s₁ with files := (loadTemplate env.cache s₁.files file env.config.fold).2 }
        { s₂ with files := (loadTemplate env.cache s₁.files file env.config.fold).2 } :=
      ⟨congrArg (fun s : RenderState =>
          { s with files := (loadTemplate env.cache s₁.files file env.config.fold).2 }) hs.rest,
        hs.scope, hs.layers, hs.macros, hfiles _ _ hs.files⟩
    rw [outcome_bind, outcome_bind, hload, hload, hs.files_eq]
    cases hloaded : (loadTemplate env.cache s₁.files file env.config.fold).1 with
    | error e => exact .inr ⟨.error rfl, hs'⟩
    | ok loaded =>
      have hincludes : env.included? s₁.files t i = some loaded.template := by
        simp [Environment.included?, hn, hembed, hfile, hloaded, Except.toOption]
      have htemplate : K.Indifferent l (withInclude (renderTemplate self loaded.template)) :=
        indifferent_during ⟨fun _ _ => rfl, fun _ => rfl, fun _ => rfl⟩
          ⟨fun _ _ => rfl, fun _ => rfl, fun _ => rfl⟩
          (indifferent_renderTemplate fun j hj =>
            hincluded s₁.files loaded.template j hs.files hincludes hj)
      exact htemplate _ _ hs'

variable (henv : env.functions.IgnoresOrder) (hlooks : ∀ e, n.Evaluates 0 e → env.Overlooks l e)

include henv hlooks

theorem indifferent_renderFeed (hfeed : n.directive = some .feed) :
    K.Indifferent l (renderFeed env n) := by
  refine indifferent_bind (indifferent_foldlM (fun params entry hentry => ?_) _) fun params => ?_
  · obtain ⟨hmem, hnamed⟩ := List.mem_filter.1 hentry
    have hlooked := hlooks _ (.feed hfeed hmem (of_decide_eq_true hnamed))
    exact indifferent_bind (indifferent_evaluate henv hlooked) fun value => indifferent_pure _
  · split
    · exact indifferent_throw _
    · exact indifferent_bind (indifferent_lift _) fun value =>
        indifferent_bind (indifferent_mount _ value) fun _ => indifferent_pure ""

variable (hchildren : K.Indifferent l (renderChildren self t n.children))

include hchildren

theorem indifferent_renderAttr (hattr : n.directive = some .attr) :
    K.Indifferent l (renderAttr env self t n) := by
  refine indifferent_bind ?_ fun value =>
    indifferent_bind (indifferent_setAttribute _ value) fun _ => indifferent_pure ""
  have hflag : K.Indifferent l (evaluateTruth env (n.attribute? "flag")) :=
    indifferent_evaluateTruth henv fun e he => hlooks e (.flag hattr he)
  refine indifferent_bind hflag fun flagged => ?_
  split
  · exact indifferent_pure none
  · split
    · have hlooked := hlooks _ (.value hattr (by decide) ‹_›)
      exact indifferent_map _ (indifferent_evaluateText henv hlooked)
    · exact indifferent_bind hchildren fun content => indifferent_pure _

theorem indifferent_renderMount (hmount : n.directive = some .mount) :
    K.Indifferent l (renderMount env self t n) := by
  have hthen : ∀ value, K.Indifferent l (mount (required n "target") value >>= fun _ => pure "") :=
    fun value => indifferent_bind (indifferent_mount _ value) fun _ => indifferent_pure ""
  unfold renderMount
  cases hvalue : n.attribute? "value" with
  | none => exact indifferent_bind (indifferent_map _ hchildren) hthen
  | some e =>
    have hlooked := hlooks e (.value hmount (by decide) hvalue)
    exact indifferent_bind (indifferent_evaluate henv hlooked) hthen

theorem indifferent_renderTrans (htrans : n.directive = some .trans) :
    K.Indifferent l (renderTrans env self t n) := by
  refine indifferent_bind hchildren fun content => ?_
  split
  · exact indifferent_pure content
  · cases hkey : n.attribute? "key" with
    | none =>
      exact indifferent_bind (indifferent_pure _) fun key =>
        indifferent_get (fun _ _ => rfl) fun s _ => indifferent_pure _
    | some raw =>
      have htext : K.Indifferent l (interpolate env raw) :=
        indifferent_interpolate henv fun text hpiece => hlooks _ (.key htrans hkey hpiece)
      exact indifferent_bind htext fun key =>
        indifferent_get (fun _ _ => rfl) fun s _ => indifferent_pure _

theorem indifferent_renderDirective {directive : Directive}
    (hdirective : n.directive = some directive)
    (hembed : n.directive = some .embed → K.Indifferent l (renderEmbed env self t n)) :
    K.Indifferent l (renderDirective env self t n directive) := by
  cases directive with
  | attr => exact indifferent_renderAttr henv hlooks hchildren hdirective
  | cdata => exact indifferent_renderCData
  | dictionary => exact indifferent_renderDictionary
  | feed => exact indifferent_renderFeed henv hlooks hdirective
  | embed => exact hembed hdirective
  | mount => exact indifferent_renderMount henv hlooks hchildren hdirective
  | param => exact indifferent_pure ""
  | trans => exact indifferent_renderTrans henv hlooks hchildren hdirective
  | val => exact indifferent_evaluateText henv (hlooks _ (.val hdirective))

end Directives

/-- **An element gives the same in both states**, if its expressions overlook the universe, and what
stands inside of it, what it calls and what it includes gives the same. -/
theorem indifferent_renderWith {env : Environment} {self : NodeRenderer} {t : Template} {i : Nat}
    {mode : Mode} (henv : env.functions.IgnoresOrder)
    (hlooks : ∀ n put e, t.Opens i mode n → n.Evaluates put e → env.Overlooks (l + put) e)
    (hinside : ∀ n, t.Opens i mode n → K.Inside env self (l + n.walkLayers) t n)
    (hregistered : ∀ n name, t.tree.node? i = some n → n.Registers mode name →
      K.registered name ⟨t, i⟩)
    (hfiles : ∀ s path, K.files s → K.files (loadTemplate env.cache s path env.config.fold).2)
    (hincluded : ∀ n s u j, t.Opens i mode n → K.files s → env.included? s t i = some u →
      u.tree.root = some (.node j) → K.Indifferent l (self u j .normal)) :
    K.Indifferent l (renderWith env self t i mode) := by
  refine indifferent_nodeAt fun n hn => matches_adapt (fun _ _ => congrArg _) (fun _ => id) ?_
  cases hdirective : n.directive with
  | none =>
    refine indifferent_renderPlain hdirective (hregistered n · hn) fun hunregistered => ?_
    have hopens : t.Opens i mode n := ⟨hn, hunregistered⟩
    exact indifferent_unregistered henv hdirective (hlooks n · · hopens) (hinside n hopens)
  | some directive =>
    have hopens : t.Opens i mode n := .of_directive hn hdirective
    have hlayers : n.walkLayers = 0 := by simp [Node.walkLayers, hdirective]
    have hheld := (hinside n hopens).held
    rw [hlayers] at hheld
    exact indifferent_renderDirective henv (hlooks n 0 · hopens)
      (indifferent_renderChildren fun j hj => hheld j (.child hj)) hdirective
      fun hembed => indifferent_renderEmbed hn hembed hfiles (hincluded n · · · hopens)

end Known

end TagTemplate
