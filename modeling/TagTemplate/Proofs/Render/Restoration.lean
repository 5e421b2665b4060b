import TagTemplate.Proofs.Render.Restored

/-!
# Elements restore the state

Every function of the renderer restores the state if the renderer for the elements inside does.
Elements that fail in the middle are no exception: what was put on for a call, an iteration, an
include or the attributes of an element is taken off before the error goes on.

- `restores_renderSlot`: the one function that changes what it noted before, the length of a slot;
- `restores_renderNode`: elements restore the state, by induction on how deep the renderer goes;
- `renderNode_restored`: what this says about each part of the state.
-/

namespace TagTemplate

namespace Rendering

/-! ## Expressions -/

variable {env : Environment} {self : NodeRenderer} {template : Template} {node : Node}
  {action : Rendering String}

theorem restores_evaluate (expression : String) : Restores (evaluate env expression) :=
  restores_bind restores_get fun _ => restores_lift _

theorem restores_evaluateText (expression : String) : Restores (evaluateText env expression) :=
  restores_map _ (restores_evaluate expression)

theorem restores_evaluateTruth (expression : Option String) :
    Restores (evaluateTruth env expression) := by
  cases expression with
  | none => exact restores_pure false
  | some expression => exact restores_map _ (restores_evaluate expression)

theorem restores_interpolate (raw : String) : Restores (interpolate env raw) := by
  refine restores_map _ (restores_mapM (fun piece => ?_) _)
  cases piece with
  | literal text => exact restores_pure _
  | expression text => exact restores_evaluateText _
  | unclosed => exact restores_throw _

theorem restores_mount (name : String) (value : Value) : Restores (mount name value) :=
  restores_modify fun s => .mount s name value

/-- An attribute goes into the innermost frame. -/
theorem restores_setAttribute (name : String) (value : Option String) :
    Restores (setAttribute name value) := by
  refine restores_modify fun s => ?_
  split
  · rename_i frame frames hframes
    exact { RenderState.Restored.refl s with
      frameCount := by simp [hframes], outerFrames := by simp [hframes] }
  · exact .refl s

theorem restores_noteDoctype (node : Node) : Restores (noteDoctype node) := by
  refine restores_modify fun s => ?_
  split
  · split
    · exact .of_same rfl rfl rfl rfl rfl
    · exact .refl s
  · exact .refl s

theorem restores_ownAttributes (attributes : List (String × String)) :
    Restores (ownAttributes env attributes) := by
  refine restores_foldlM (fun frame entry => ?_) _ _
  exact restores_bind (restores_interpolate entry.2) fun value => restores_pure _

theorem restores_envelope (node : Node) (body : String) (made : Frame) :
    Restores (envelope env node body made) := by
  refine restores_bind (restores_noteDoctype node) fun _ => ?_
  refine restores_bind (restores_ownAttributes _) fun own => ?_
  refine restores_bind (restores_evaluateTruth _) fun void => ?_
  split
  · exact restores_pure _
  · split <;> exact restores_pure _

theorem restores_nodeAt (template : Template) (id : Nat) : Restores (nodeAt template id) := by
  unfold nodeAt
  split
  · exact restores_pure _
  · exact restores_throw _

theorem restores_directiveChildren (template : Template) (directive : Directive)
    (children : List Child) : Restores (directiveChildren template directive children) := by
  induction children with
  | nil => exact restores_pure []
  | cons child children ih =>
    cases child with
    | text content => exact ih
    | node id =>
      exact restores_bind (restores_nodeAt template id) fun child =>
        restores_bind ih fun rest => restores_pure _

/-! ## Walks -/

/-- Every item is rendered with its layer and its iteration on. -/
theorem restores_forItems (h : Restores action) (count position : Nat)
    (items : List (Value × Value)) : Restores (forItems action count position items) := by
  induction items generalizing position with
  | nil => exact restores_pure []
  | cons entry items ih =>
    refine restores_bind (restores_withLayer _ (restores_withIteration _ h)) fun output => ?_
    exact restores_bind (ih _) fun outputs => restores_pure _

theorem restores_renderWalk (h : Restores action) (node : Node) (expression : String) :
    Restores (renderWalk env action node expression) := by
  refine restores_bind (restores_evaluate expression) fun value => ?_
  refine restores_bind (restores_lift _) fun items => ?_
  exact restores_bind (restores_forItems h _ _ _) fun outputs => restores_pure _

/-! ## Slots -/

theorem outcome_renderSlot_known {name : String} {s : RenderState}
    (h : s.slots.lengths.contains name = true) :
    (renderSlot env self template node name).outcome s =
      (renderElement env self template node).outcome s := by
  unfold renderSlot
  rw [outcome_bind]
  show outcome _ s = _
  rw [Slots.recordSlot_known h]

/-- A new slot is noted down before its content is rendered, and measured after. -/
theorem outcome_renderSlot_new {name : String} {s : RenderState}
    (h : s.slots.lengths.contains name = false) :
    (renderSlot env self template node name).outcome s =
      match (renderElement env self template node).outcome
          { s with slots := (s.slots.recordSlot name).2 } with
      | (.ok content, t) =>
        (.ok (Slots.anchor name ++ content),
          { t with slots := t.slots.setLength name content.utf8ByteSize })
      | (.error e, t) => (.error e, t) := by
  unfold renderSlot
  rw [outcome_bind]
  show outcome _ s = _
  rw [Slots.recordSlot_new h]
  show outcome (modify _ >>= _) s = _
  rw [outcome_bind]
  show outcome (renderElement env self template node >>= _)
    { s with slots := { s.slots with lengths := s.slots.lengths.insert name 0 } } = _
  rw [outcome_bind]
  generalize (renderElement env self template node).outcome _ = p
  obtain ⟨result, t⟩ := p
  cases result <;> rfl

/-! ## Elements -/

section Inside

variable (hself : ∀ template id mode, Restores (self template id mode)) (template : Template)
  (node : Node)

include hself

theorem restores_renderChildren (children : List Child) :
    Restores (renderChildren self template children) := by
  induction children with
  | nil => exact restores_pure ""
  | cons child children ih =>
    cases child with
    | text content => exact restores_bind ih fun rest => restores_pure _
    | node id =>
      exact restores_bind (hself template id .normal) fun output =>
        restores_bind ih fun rest => restores_pure _

theorem restores_renderBody : Restores (renderBody env self template node) := by
  unfold renderBody
  split
  · exact restores_renderChildren hself template _
  · refine restores_bind (restores_directiveChildren template .attr _) fun ids => ?_
    refine restores_bind (restores_forIn (fun id => ?_) ids) fun _ => restores_evaluateText _
    exact restores_bind (hself template id .normal) fun _ => restores_pure _

theorem restores_renderElement : Restores (renderElement env self template node) := by
  refine restores_bind (restores_withFrame (restores_renderBody hself template node)) ?_
  rintro ⟨body, made⟩
  dsimp only
  split
  · exact restores_pure body
  · refine restores_bind (restores_evaluateTruth _) fun mute => ?_
    split
    · exact restores_pure body
    · exact restores_envelope node body made

theorem restores_callArguments : Restores (callArguments env self template node) := by
  refine restores_bind (restores_foldlM (fun layer entry => ?_) _ _) fun named => ?_
  · exact restores_bind (restores_evaluate entry.2) fun value => restores_pure _
  · refine restores_bind (restores_directiveChildren template .param _) fun params => ?_
    refine restores_foldlM (fun layer id => ?_) _ _
    refine restores_bind (restores_nodeAt template id) fun param => ?_
    split
    · exact restores_bind (restores_evaluate _) fun value => restores_pure _
    · exact restores_bind (restores_map _ (restores_renderChildren hself template _)) fun value =>
        restores_pure _

theorem restores_renderCall (name : String) :
    Restores (renderCall env self template node name) := by
  refine restores_bind restores_get fun s => ?_
  split
  · exact restores_throw _
  · refine restores_bind (restores_callArguments hself template node) fun layer => ?_
    exact restores_withLayer _ (hself _ _ .called)

theorem restores_renderPlug (name : String) :
    Restores (renderPlug env self template node name) := by
  refine restores_bind (restores_renderElement hself template node) fun content => ?_
  refine restores_bind (restores_evaluateTruth _) fun append => ?_
  exact restores_bind (restores_modify fun s => .queuePlug s name ⟨content, append⟩) fun _ =>
    restores_pure ""

/-- The length of a slot is set after its content is rendered; by then it is still a new slot, so
that no slot from before changes. -/
theorem restores_renderSlot (name : String) :
    Restores (renderSlot env self template node name) := by
  have helement : Restores (renderElement env self template node) :=
    restores_renderElement hself template node
  intro s
  cases hknown : s.slots.lengths.contains name with
  | true =>
    rw [outcome_renderSlot_known hknown]
    exact helement s
  | false =>
    rw [outcome_renderSlot_new hknown]
    have hbody := helement { s with slots := (s.slots.recordSlot name).2 }
    generalize (renderElement env self template node).outcome _ = p at hbody ⊢
    obtain ⟨result, t⟩ := p
    cases result with
    | error e => exact .recordSlot hbody
    | ok content => exact .setLength hknown (.recordSlot hbody) _

/-- What is done once the condition is known. -/
theorem restores_conditional (holds : Bool) : Restores
    (if !holds then pure ""
      else match node.directiveAttribute? "call" with
      | some name => renderCall env self template node name
      | none =>
        match node.directiveAttribute? "plug" with
        | some name => renderPlug env self template node name
        | none =>
          match node.directiveAttribute? "slot" with
          | some name => renderSlot env self template node name
          | none => renderElement env self template node) := by
  split
  · exact restores_pure ""
  · split
    · exact restores_renderCall hself template node _
    · split
      · exact restores_renderPlug hself template node _
      · split
        · exact restores_renderSlot hself template node _
        · exact restores_renderElement hself template node

theorem restores_renderGuarded : Restores (renderGuarded env self template node) := by
  unfold renderGuarded
  cases node.directiveAttribute? "cond" with
  | none => exact restores_bind (restores_pure true) (restores_conditional hself template node)
  | some condition =>
    exact restores_bind (restores_evaluateTruth _) (restores_conditional hself template node)

theorem restores_unregistered : Restores
    (match node.directiveAttribute? "walk" with
      | some expression => renderWalk env (renderGuarded env self template node) node expression
      | none => renderGuarded env self template node) := by
  have hguarded : Restores (renderGuarded env self template node) :=
    restores_renderGuarded hself template node
  split
  · exact restores_renderWalk hguarded node _
  · exact hguarded

theorem restores_renderPlain (id : Nat) (mode : Mode) :
    Restores (renderPlain env self template id node mode) := by
  unfold renderPlain
  cases mode with
  | called => exact restores_unregistered hself template node
  | normal =>
    cases node.directiveAttribute? "macro" with
    | none => exact restores_unregistered hself template node
    | some name =>
      exact restores_bind (restores_modify fun s => .of_same rfl rfl rfl rfl rfl) fun _ =>
        restores_pure ""

/-! ## Directives -/

theorem restores_renderAttr : Restores (renderAttr env self template node) := by
  refine restores_bind ?_ fun value =>
    restores_bind (restores_setAttribute _ value) fun _ => restores_pure ""
  refine restores_bind (restores_evaluateTruth _) fun flagged => ?_
  split
  · exact restores_pure none
  · split
    · exact restores_map _ (restores_evaluateText _)
    · exact restores_bind (restores_renderChildren hself template _) fun content =>
        restores_pure _

theorem restores_renderMount : Restores (renderMount env self template node) := by
  have hthen : ∀ value, Restores (mount (required node "target") value >>= fun _ => pure "") :=
    fun value => restores_bind (restores_mount _ value) fun _ => restores_pure ""
  unfold renderMount
  cases node.attribute? "value" with
  | none =>
    exact restores_bind (restores_map _ (restores_renderChildren hself template _)) hthen
  | some expression => exact restores_bind (restores_evaluate expression) hthen

theorem restores_renderTrans : Restores (renderTrans env self template node) := by
  refine restores_bind (restores_renderChildren hself template _) fun content => ?_
  split
  · exact restores_pure content
  · cases node.attribute? "key" with
    | none =>
      exact restores_bind (restores_pure _) fun key =>
        restores_bind restores_get fun s => restores_pure _
    | some key =>
      exact restores_bind (restores_interpolate key) fun key =>
        restores_bind restores_get fun s => restores_pure _

theorem restores_renderTemplate : Restores (renderTemplate self template) := by
  unfold renderTemplate
  split
  · exact hself template _ .normal
  · exact restores_pure _
  · exact restores_pure ""

omit hself in
theorem restores_namedFile : Restores (namedFile env template node) :=
  restores_bind restores_get fun _ => restores_pure _

omit hself in
/-- Loading a template may put it into the cache, which only changes the files. -/
theorem restores_load (file : String) : Restores (load env file) :=
  fun _ => .of_same rfl rfl rfl rfl rfl

theorem restores_renderEmbed : Restores (renderEmbed env self template node) := by
  refine restores_bind (restores_namedFile template node) fun file => ?_
  refine restores_bind restores_get fun s => ?_
  split
  · exact restores_throw _
  · exact restores_bind (restores_load file) fun included =>
      restores_withInclude (restores_renderTemplate hself included)

omit hself in
theorem restores_renderCData : Restores (renderCData env template node) :=
  restores_bind (restores_namedFile template node) fun _ =>
    restores_bind restores_get fun _ => restores_lift _

omit hself in
theorem restores_renderDictionary : Restores (renderDictionary env template node) :=
  restores_bind (restores_namedFile template node) fun _ =>
    restores_bind (restores_modify fun _ => .of_same rfl rfl rfl rfl rfl) fun _ =>
      restores_pure ""

omit hself in
theorem restores_renderFeed : Restores (renderFeed env node) := by
  refine restores_bind (restores_foldlM (fun params entry => ?_) _ _) fun params => ?_
  · exact restores_bind (restores_evaluate entry.2) fun value => restores_pure _
  · split
    · exact restores_throw _
    · exact restores_bind (restores_lift _) fun value =>
        restores_bind (restores_mount _ value) fun _ => restores_pure ""

theorem restores_renderDirective (directive : Directive) :
    Restores (renderDirective env self template node directive) := by
  cases directive with
  | attr => exact restores_renderAttr hself template node
  | cdata => exact restores_renderCData template node
  | dictionary => exact restores_renderDictionary template node
  | feed => exact restores_renderFeed node
  | embed => exact restores_renderEmbed hself template node
  | mount => exact restores_renderMount hself template node
  | param => exact restores_pure ""
  | trans => exact restores_renderTrans hself template node
  | val => exact restores_evaluateText _

/-- An element restores the state if the elements inside do. -/
theorem restores_renderWith (id : Nat) (mode : Mode) :
    Restores (renderWith env self template id mode) := by
  refine restores_bind (restores_nodeAt template id) fun node => restores_adapt _ ?_
  split
  · exact restores_renderDirective hself template node _
  · exact restores_renderPlain hself template node id mode

end Inside

/-- **Rendering an element restores the state**, by induction on how deep the renderer goes. -/
theorem restores_renderNode (depth : Nat) (template : Template) (id : Nat) (mode : Mode) :
    Restores (renderNode env depth template id mode) := by
  induction depth generalizing template id mode with
  | zero => exact restores_throw _
  | succ depth ih => exact restores_renderWith ih template id mode

end Rendering

/-- **What is left when an element has been rendered**, on success and on error alike: the scope is
as deep as before, with the same layers above its universe, and no name of the universe is gone;
iterations and the include level are the same; there are as many frames, and all but the innermost
are the same; the slots noted before are still the first ones, in the same order and with the same
lengths; and the plugs of each slot begin with those it had. -/
theorem renderNode_restored (env : Environment) (depth : Nat) (template : Template) (id : Nat)
    (mode : Mode) (s : RenderState) :
    let t := ((Rendering.renderNode env depth template id mode).run s).2
    t.scope.depth = s.scope.depth ∧ t.scope.layers = s.scope.layers ∧
      (∀ name, s.scope.base.contains name = true → t.scope.base.contains name = true) ∧
      t.iterations = s.iterations ∧ t.includeDepth = s.includeDepth ∧
      t.frames.length = s.frames.length ∧ t.frames.tail = s.frames.tail ∧
      s.slots.lengths.entries <+: t.slots.lengths.entries ∧
      ∀ name, s.slots.plugs name <+: t.slots.plugs name := by
  have h : s.Restored ((Rendering.renderNode env depth template id mode).run s).2 :=
    Rendering.restores_renderNode depth template id mode s
  refine ⟨?_, h.layers, fun name hname => ?_, h.iterations, h.includeDepth, h.frameCount,
    h.outerFrames, h.lengths, fun name => ?_⟩
  · exact congrArg (fun layers : List Value => layers.length + 1) h.layers
  · exact OrderedMap.contains_of_mem_keys
      (h.names.subset (OrderedMap.mem_keys_of_contains hname))
  · exact (h.queue.filter _).map _

end TagTemplate
