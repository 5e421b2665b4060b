import TagTemplate.Proofs.Island.RoundTrip
import TagTemplate.Proofs.Render.Inert
import TagTemplate.Proofs.Render.Interpolation
import TagTemplate.Proofs.Template.Reproduction

/-!
# Values stay inside of their attributes

An element is written with the values of its attributes, which hold whatever the data holds. They
are escaped, so that reading the tag gives back the attributes with these values and nothing else.

- `Looks`: renderings that look at the scope and the iterations only, with `looks_interpolate`;
- `outcome_envelope_values`: what is written around a body;
- `read_startTag`: a written tag, closed in either way, is read back;
- `renderElement_startTag`: **an element's start tag is read as its attributes with their values**,
  whatever characters the values have.
-/

namespace TagTemplate

open Markup

namespace Rendering

variable {α β : Type} {env : Environment}

/-! ## Renderings that only look -/

/-- A rendering that looks at the scope and the iterations only, and leaves the state as it is. -/
def Looks (x : Rendering α) : Prop :=
  ∀ s s' : RenderState, s'.scope = s.scope → s'.iterations = s.iterations →
    x.outcome s' = ((x.outcome s).1, s')

theorem looks_pure (a : α) : Looks (pure a) := fun _ _ _ _ => rfl

theorem looks_throw (e : Error) : Looks (throw e : Rendering α) := fun _ _ _ _ => rfl

theorem looks_bind {x : Rendering α} {f : α → Rendering β} (h : Looks x) (hf : ∀ a, Looks (f a)) :
    Looks (x >>= f) := by
  intro s s' hscope hiterations
  have hself := h s s rfl rfl
  rw [outcome_bind, outcome_bind, h s s' hscope hiterations, hself]
  cases (x.outcome s).1 with
  | error e => rfl
  | ok a => exact hf a s s' hscope hiterations

theorem looks_map {x : Rendering α} {f : α → β} (h : Looks x) : Looks (f <$> x) := by
  rw [map_eq_pure_bind]
  exact looks_bind h fun a => looks_pure (f a)

theorem looks_mapM {f : α → Rendering β} {l : List α} (h : ∀ a ∈ l, Looks (f a)) :
    Looks (l.mapM f) := by
  induction l with
  | nil => exact looks_pure []
  | cons a l ih =>
    obtain ⟨ha, hl⟩ := List.forall_mem_cons.1 h
    rw [List.mapM_cons]
    exact looks_bind ha fun b => looks_bind (ih hl) fun bs => looks_pure (b :: bs)

theorem looks_evaluate (env : Environment) (expression : String) :
    Looks (evaluate env expression) := by
  intro s s' hscope hiterations
  show (Expr.evaluate ⟨s'.scope, env.functions, s'.iterations.head?⟩ expression, s') = _
  rw [hscope, hiterations]
  rfl

theorem looks_evaluateTruth (env : Environment) (expression : Option String) :
    Looks (evaluateTruth env expression) := by
  cases expression with
  | none => exact looks_pure false
  | some expression => exact looks_map (looks_evaluate env expression)

/-- **Replacing expressions only looks.** -/
theorem looks_interpolate (env : Environment) (raw : String) : Looks (interpolate env raw) := by
  refine looks_map (looks_mapM fun piece _ => ?_)
  cases piece with
  | literal text => exact looks_pure _
  | expression text => exact looks_map (looks_evaluate env _)
  | unclosed => exact looks_throw _

end Rendering

/-! ## Reading a tag -/

/-- A tag with the attributes, without its end. -/
def startTag (tag : String) (attributes : List (String × String)) : String :=
  "<" ++ tag ++ writtenAttributes attributes

/-- **A written tag is read back**, when it closes itself and when it is closed by another tag. -/
theorem read_startTag {tag : String} {attributes : List (String × String)}
    (htag : isName tag.toList = true) (hnames : ∀ entry ∈ attributes, isName entry.1.toList = true)
    (hdistinct : (attributes.map Prod.fst).Nodup) :
    ∀ closing ∈ ["/>", "></" ++ tag ++ ">"],
      Island.read (startTag tag attributes ++ closing).toList = .ok ⟨tag, ⟨attributes⟩, []⟩ := by
  have hwritable : Island.Writable [.element tag ⟨attributes⟩ []] :=
    .element htag (List.forall_mem_map.2 hnames) hdistinct .nil .nil
  have hread : ∀ short, Island.read (Island.write short [.element tag ⟨attributes⟩ []]) =
      .ok ⟨tag, ⟨attributes⟩, []⟩ :=
    fun short => eq_ok_of_toOption (Island.toOption_read_write hwritable short)
  refine List.forall_mem_cons.2 ⟨?_, List.forall_mem_singleton.2 ?_⟩
  · rw [← hread true, startTag, writtenAttributes_eq]
    simp [Island.write, Island.Node.write, Island.tagOf, Element.write, Element.empty,
      Element.content]
  · rw [← hread false, startTag, writtenAttributes_eq]
    simp [Island.write, Island.Node.write, Island.tagOf, Element.write, Element.opening,
      Element.closing, Element.content]

namespace Rendering

section StartTag

variable {env : Environment} {self : NodeRenderer} {template : Template} {node : Node}
  {s s' : RenderState} {body : String} {values : List String}

/-- The attributes that an element is written with, if their values come to these texts. -/
def valuedAttributes (node : Node) (values : List String) : List (String × String) :=
  (node.plainAttributes.map Prod.fst).zip values

/-- Noting a doctype changes nothing that renderings look at. -/
theorem outcome_noteDoctype (node : Node) (s : RenderState) :
    ∃ t : RenderState, (noteDoctype node).outcome s = (.ok (), t) ∧ t.scope = s.scope ∧
      t.iterations = s.iterations := by
  refine ⟨_, rfl, ?_⟩
  cases node.directiveAttribute? "doctype" with
  | none => exact ⟨rfl, rfl⟩
  | some doctype =>
    show RenderState.scope (if _ then _ else _) = _ ∧
      RenderState.iterations (if _ then _ else _) = _
    split <;> exact ⟨rfl, rfl⟩

/-- **What is written around a body**, if no attributes were made and the element is not void. -/
theorem outcome_envelope_values (hdistinct : node.attributes.Distinct)
    (hvoid : ((evaluateTruth env (node.directiveAttribute? "void")).outcome s).1 = .ok false)
    (hvalues : List.Forall₂ (fun entry value => ((interpolate env entry.2).outcome s).1 = .ok value)
      node.plainAttributes values) :
    ((envelope env node body .empty).outcome s).1 =
      .ok (startTag node.tag (valuedAttributes node values) ++
        if node.selfClosing ∧ body = "" then "/>" else ">" ++ body ++ "</" ++ node.tag ++ ">") := by
  -- noting the doctype leaves the data and the iterations as they are, and values depend on no more
  obtain ⟨t, hdoctype, hscope, hiterations⟩ := outcome_noteDoctype node s
  have hplain : (node.plainAttributes.map Prod.fst).Nodup :=
    hdistinct.sublist (List.filter_sublist.map Prod.fst)
  have hown := outcome_ownAttributes_values (hvalues.imp fun entry value hvalue => by
    rw [looks_interpolate env entry.2 s t hscope hiterations, hvalue]) hplain
  have hvoid' :
      (evaluateTruth env (node.directiveAttribute? "void")).outcome t = (.ok false, t) := by
    rw [looks_evaluateTruth env _ s t hscope hiterations, hvoid]
  rw [envelope, outcome_bind, hdoctype]
  dsimp only
  rw [outcome_bind, hown]
  dsimp only
  rw [renderedAttributes_own, outcome_bind, hvoid']
  simp only [Bool.false_eq_true, if_false]
  show (outcome (if node.selfClosing = true ∧ body = "" then _ else _) t).1 = _
  split
  · rfl
  · rw [outcome_pure, startTag, valuedAttributes]
    simp [String.append_assoc]

/-- **An element's start tag is read as its attributes with their values**, if no attributes were
made while its body was rendered and it is neither muted nor void: whatever characters the values
hold, the tag that is written in front of the body gives back the plain attributes in order, each
with the text that its expressions come to. -/
theorem renderElement_startTag (htag : isName node.tag.toList = true)
    (hnames : ∀ entry ∈ node.plainAttributes, isName entry.1.toList = true)
    (hdistinct : node.attributes.Distinct) (hplain : node.isNamespaced = false)
    (hbody :
      (withFrame (renderBody env self template node)).outcome s = (.ok (body, .empty), s'))
    (hmute : ((evaluateTruth env (node.directiveAttribute? "mute")).outcome s').1 = .ok false)
    (hvoid : ((evaluateTruth env (node.directiveAttribute? "void")).outcome s').1 = .ok false)
    (hvalues : List.Forall₂
      (fun entry value => ((interpolate env entry.2).outcome s').1 = .ok value)
      node.plainAttributes values) :
    ∃ opening : String, ((renderElement env self template node).outcome s).1 =
        .ok (opening ++
          if node.selfClosing ∧ body = "" then "/>" else ">" ++ body ++ "</" ++ node.tag ++ ">") ∧
      ∀ closing ∈ ["/>", "></" ++ node.tag ++ ">"],
        Island.read (opening ++ closing).toList =
          .ok ⟨node.tag, ⟨(node.plainAttributes.map Prod.fst).zip values⟩, []⟩ := by
  refine ⟨startTag node.tag (valuedAttributes node values), ?_, read_startTag htag ?_ ?_⟩
  · have hmute' := looks_evaluateTruth env (node.directiveAttribute? "mute") s' s' rfl rfl
    rw [hmute] at hmute'
    rw [renderElement, outcome_bind, hbody]
    dsimp only
    rw [hplain, if_neg Bool.false_ne_true, outcome_bind, hmute']
    exact outcome_envelope_values hdistinct hvoid hvalues
  · intro entry hentry
    obtain ⟨entry', hentry', hname⟩ := List.mem_map.1 (List.of_mem_zip hentry).1
    rw [← hname]
    exact hnames entry' hentry'
  · have hlength : (node.plainAttributes.map Prod.fst).length ≤ values.length := by
      rw [List.length_map, hvalues.length_eq]
    rw [valuedAttributes, List.map_fst_zip hlength]
    exact hdistinct.sublist (List.filter_sublist.map Prod.fst)

end StartTag

/-- An element that writes what `x` is into two attributes. -/
def linkNode : Node :=
  ⟨"a", "tl:", ⟨[("title", "'\x7bx\x7d'"), ("tl:void", "''"), ("href", "/?a=1&q=\x7bx\x7d#top")]⟩,
    [], true, 1, none, "", none⟩

/-- The page with this element only. -/
def linkPage : Template := ⟨"page.xml", "tl:", none, ⟨[linkNode], some (.node 0)⟩⟩

/-- Data that would end an attribute and its tag, with a control character in it. -/
def hostileText : String := "\"'><b c=\"&amp;\u0001"

/-- The state of a rendering with these data. -/
def hostileState : RenderState := .start ⟨⟨[("x", .string hostileText)]⟩, []⟩ (.empty "/" 0)

/-- What the data holds stays in the two attributes. -/
theorem renderElement_startTag_linkNode :
    ∃ opening : String,
      ((renderElement bareEnvironment (renderNode bareEnvironment 1) linkPage linkNode).outcome
        hostileState).1 = .ok (opening ++ "/>") ∧
      Island.read (opening ++ "/>").toList = .ok ⟨"a",
        ⟨[("title", "'" ++ hostileText ++ "'"),
          ("href", "/?a=1&q=" ++ hostileText ++ "#top")]⟩, []⟩ := by
  have hvalue : ∀ raw before after : String,
      pieces raw = [.literal before.toList, .expression ['x'], .literal after.toList] →
      ((interpolate bareEnvironment raw).outcome hostileState).1 =
        .ok (before ++ hostileText ++ after) := by
    intro raw before after hpieces
    have hx : (evaluateText bareEnvironment (String.ofList ['x'])).outcome hostileState =
        (.ok hostileText, hostileState) := outcome_evaluateText (v := .string hostileText) rfl
    rw [interpolate, outcome_map, hpieces]
    simp [renderPiece, outcome_map, hx, Except.map, String.append_assoc]
  have hvalues : List.Forall₂ (fun entry value =>
      ((interpolate bareEnvironment entry.2).outcome hostileState).1 = .ok value)
      linkNode.plainAttributes ["'" ++ hostileText ++ "'", "/?a=1&q=" ++ hostileText ++ "#top"] :=
    .cons (hvalue _ "'" "'" (by decide)) (.cons (hvalue _ "/?a=1&q=" "#top" (by decide)) .nil)
  have hdistinct : linkNode.attributes.keys.Nodup := by decide
  have hbody : (withFrame (renderBody bareEnvironment (renderNode bareEnvironment 1) linkPage
      linkNode)).outcome hostileState = (.ok ("", .empty), hostileState) := rfl
  have hmute : ((evaluateTruth bareEnvironment (linkNode.directiveAttribute? "mute")).outcome
      hostileState).1 = .ok false := rfl
  have hvoid : ((evaluateTruth bareEnvironment (linkNode.directiveAttribute? "void")).outcome
      hostileState).1 = .ok false := rfl
  obtain ⟨opening, hrender, hread⟩ := renderElement_startTag (by decide) (by decide) hdistinct
    (by decide) hbody hmute hvoid hvalues
  exact ⟨opening, hrender, hread _ List.mem_cons_self⟩

end Rendering

end TagTemplate
