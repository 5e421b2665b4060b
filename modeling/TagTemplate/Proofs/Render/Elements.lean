import TagTemplate.Proofs.Render.Pairing

/-!
# Elements beside each other

With renderers that agree on what stands inside, elements that say the same and are no directives
render to the same. There is one lemma for each function of the renderer, from children at the same
places and expressions up to `matches_renderPlain`.
-/

namespace TagTemplate.Rendering

open Pairing

variable {env : Environment} {P : Pairing} {t₁ t₂ : Template} {self₁ self₂ : NodeRenderer}
  {n₁ n₂ : Node}

/-! ## Children at the same places -/

theorem matches_sameChildren {children : List Child}
    (hself : ∀ i, .node i ∈ children → P.Matches Eq (self₁ t₁ i .normal) (self₂ t₂ i .normal)) :
    P.Matches Eq (renderChildren self₁ t₁ children) (renderChildren self₂ t₂ children) := by
  induction children with
  | nil => exact matches_pure rfl
  | cons child children ih =>
    have hrest := ih fun i hi => hself i (List.mem_cons_of_mem _ hi)
    cases child with
    | text content =>
      exact matches_bind hrest fun _ _ h => matches_pure (congrArg (content ++ ·) h)
    | node id =>
      refine matches_bind (hself id List.mem_cons_self) ?_
      rintro output _ rfl
      exact matches_bind hrest fun _ _ h => matches_pure (congrArg (output ++ ·) h)

theorem matches_sameDirectives {directive : Directive} {r : Nat → Nat → Prop}
    {children : List Child}
    (hnodes : ∀ i, .node i ∈ children → P.Matches
      (fun n₁ n₂ => n₁.directive = n₂.directive ∧ (n₁.directive = some directive → r i i))
      (nodeAt t₁ i) (nodeAt t₂ i)) :
    P.Matches (List.Forall₂ r) (directiveChildren t₁ directive children)
      (directiveChildren t₂ directive children) := by
  induction children with
  | nil => exact matches_pure .nil
  | cons child children ih =>
    have hrest := ih fun i hi => hnodes i (List.mem_cons_of_mem _ hi)
    cases child with
    | text content => exact hrest
    | node id =>
      refine matches_bind (hnodes id List.mem_cons_self) fun n₁ n₂ ⟨hdirective, hid⟩ => ?_
      refine matches_bind hrest fun ids₁ ids₂ hids => ?_
      rw [← hdirective]
      split
      · exact matches_pure (.cons (hid ‹_›) hids)
      · exact matches_pure hids

/-! ## Expressions -/

theorem matches_evaluate (henv : env.Raises P.raised) (expression : String) :
    P.Matches Eq (evaluate env expression)
      (evaluate env expression) := by
  refine matches_bind matches_state fun s₁ s₂ hs => ?_
  rw [hs.rest]
  exact matches_lift fun e he => henv.evaluated _ _ _ e he

theorem matches_evaluateText (henv : env.Raises P.raised) (expression : String) :
    P.Matches Eq (evaluateText env expression)
      (evaluateText env expression) :=
  matches_map (matches_evaluate henv expression) fun _ _ h => congrArg Value.output h

theorem matches_evaluateTruth (henv : env.Raises P.raised) (expression : Option String) :
    P.Matches Eq (evaluateTruth env expression)
      (evaluateTruth env expression) := by
  cases expression with
  | none => exact matches_pure rfl
  | some expression =>
    exact matches_map (matches_evaluate henv expression) fun _ _ h => congrArg Value.isTruthy h

theorem matches_interpolate (henv : env.Raises P.raised) (raw : String) :
    P.Matches Eq (interpolate env raw) (interpolate env raw) := by
  refine matches_map (matches_mapM (t := Eq) (List.forall₂_eq_eq_eq ▸ rfl) ?_) ?_
  · rintro piece _ rfl
    cases piece with
    | literal text => exact matches_pure rfl
    | expression text => exact matches_evaluateText henv _
    | unclosed => exact matches_throw (henv.plain _ trivial)
  · intro texts₁ texts₂ htexts
    rw [List.forall₂_eq_eq_eq] at htexts
    exact congrArg String.join htexts

theorem matches_ownAttributes (henv : env.Raises P.raised) (attributes : List (String × String)) :
    P.Matches Eq (ownAttributes env attributes)
      (ownAttributes env attributes) := by
  refine matches_foldlM (r := Eq) (List.forall₂_eq_eq_eq ▸ rfl) ?_ rfl
  rintro frame _ ⟨name, raw⟩ _ rfl rfl
  refine matches_bind (matches_interpolate henv raw) ?_
  rintro value _ rfl
  exact matches_pure rfl

/-! ## Written elements -/

theorem matches_noteDoctype (hn : P.Kin self₁ self₂ t₁ t₂ n₁ n₂) :
    P.Matches Eq (noteDoctype n₁) (noteDoctype n₂) := by
  have hsame : noteDoctype n₁ = noteDoctype n₂ := by
    rw [noteDoctype, noteDoctype, hn.directiveAttribute?, hn.isOutermost]
  rw [hsame]
  unfold noteDoctype
  cases n₂.directiveAttribute? "doctype" with
  | none => exact matches_change ⟨fun _ _ _ => rfl, fun _ => rfl⟩
  | some doctype =>
    refine matches_change ⟨fun s macros files => ?_, fun s => ?_⟩
    · dsimp only
      split <;> rfl
    · dsimp only
      split <;> rfl

theorem matches_envelope (henv : env.Raises P.raised) (hn : P.Kin self₁ self₂ t₁ t₂ n₁ n₂)
    (hwritten : n₁.isNamespaced = false) (body : String) (made : Frame) :
    P.Matches Eq (envelope env n₁ body made)
      (envelope env n₂ body made) := by
  refine matches_bind (matches_noteDoctype hn) fun _ _ _ => ?_
  rw [hn.plainAttributes, hn.tag hwritten, hn.directiveAttribute?, hn.selfClosing]
  refine matches_bind (matches_ownAttributes henv _) ?_
  rintro own _ rfl
  refine matches_bind (matches_evaluateTruth henv _) ?_
  rintro void _ rfl
  split
  · exact matches_pure rfl
  · split <;> exact matches_pure rfl

theorem matches_withFrame {x y : Rendering String}
    (h : P.Matches Eq x y) :
    P.Matches Eq (withFrame x) (withFrame y) := by
  intro s₁ s₂ (hs : P.Beside s₁ s₂)
  have henter : P.Beside { s₁ with frames := .empty :: s₁.frames }
      { s₂ with frames := .empty :: s₂.frames } :=
    hs.map (f := fun s => { s with frames := .empty :: s.frames })
      ⟨fun _ _ _ => rfl, fun _ => rfl⟩
  rw [outcome_withFrame, outcome_withFrame]
  rcases h _ _ henter with ⟨e, hstops, hfails⟩ | ⟨hcorresponds, hs'⟩
  · refine .inl ⟨e, hstops, ?_⟩
    dsimp only
    rw [hfails]
    rfl
  · replace hs' : P.Beside _ _ := hs'
    have hframes := congrArg RenderState.frames hs'.rest
    refine .inr ⟨hcorresponds.map fun a b hab => ?_, ?_⟩
    · rw [hab, hframes]
    · exact hs'.map (f := fun s => { s with frames := s.frames.tail })
        ⟨fun _ _ _ => rfl, fun _ => rfl⟩

section Inside

variable (henv : env.Raises P.raised) (h : P.Inside self₁ self₂ t₁ t₂ n₁ n₂)
  (hn : P.Kin self₁ self₂ t₁ t₂ n₁ n₂)

include henv h hn

theorem matches_renderBody :
    P.Matches Eq (renderBody env self₁ t₁ n₁)
      (renderBody env self₂ t₂ n₂) := by
  unfold renderBody
  rw [hn.directiveAttribute?]
  cases n₂.directiveAttribute? "text" with
  | none => exact hn.children
  | some expression =>
    refine matches_bind h.made ?_
    intro made₁ made₂ hmade
    refine matches_bind (matches_forIn hmade ?_) fun _ _ _ => matches_evaluateText henv expression
    intro i₁ i₂ hi
    exact matches_bind hi fun _ _ _ => matches_pure rfl

theorem matches_renderElement :
    P.Matches Eq (renderElement env self₁ t₁ n₁)
      (renderElement env self₂ t₂ n₂) := by
  refine matches_bind (matches_withFrame (matches_renderBody henv h hn)) ?_
  rintro ⟨body, made⟩ _ rfl
  dsimp only
  rw [← hn.isNamespaced, hn.directiveAttribute?]
  cases hwritten : n₁.isNamespaced with
  | true => exact matches_pure rfl
  | false =>
    refine matches_bind (matches_evaluateTruth henv _) ?_
    rintro mute _ rfl
    split
    · exact matches_pure rfl
    · exact matches_envelope henv hn hwritten body made

/-! ## Calls, plugs and slots -/

theorem matches_callArguments :
    P.Matches Eq (callArguments env self₁ t₁ n₁)
      (callArguments env self₂ t₂ n₂) := by
  unfold callArguments
  rw [hn.plainAttributes]
  refine matches_bind (matches_foldlM (r := Eq) (t := Eq) (List.forall₂_eq_eq_eq ▸ rfl) ?_ rfl) ?_
  · rintro layer _ ⟨name, expression⟩ _ rfl rfl
    refine matches_bind (matches_evaluate henv expression) ?_
    rintro value _ rfl
    exact matches_pure rfl
  · rintro named _ rfl
    refine matches_bind h.params ?_
    intro params₁ params₂ hparams
    refine matches_foldlM hparams ?_ rfl
    rintro layer _ i₁ i₂ rfl hi
    refine matches_bind hi fun param₁ param₂ hparam => ?_
    rw [hparam.attribute? "value" (by decide), hparam.attribute? "name" (by decide)]
    cases param₂.attribute? "value" with
    | some expression =>
      refine matches_bind (matches_evaluate henv expression) ?_
      rintro value _ rfl
      exact matches_pure rfl
    | none =>
      refine matches_bind (matches_map hparam.children fun _ _ => congrArg Value.string) ?_
      rintro value _ rfl
      exact matches_pure rfl

theorem matches_renderCall {name : String} (hname : n₂.directiveAttribute? "call" = some name) :
    P.Matches Eq (renderCall env self₁ t₁ n₁ name)
      (renderCall env self₂ t₂ n₂ name) := by
  refine matches_bind matches_state fun s₁ s₂ hs => ?_
  rcases lookup_of_macrosAlike hs.macros name with
    ⟨hnone₁, hnone₂⟩ | ⟨d₁, d₂, hsome₁, hsome₂, hd⟩
  · rw [hnone₁, hnone₂]
    exact matches_throw (henv.plain _ trivial)
  · rw [hsome₁, hsome₂]
    refine matches_bind (matches_callArguments henv h hn) ?_
    rintro layer _ rfl
    -- the macro may stand in another template than the call; only its counterpart matters
    exact matches_between ⟨fun _ _ _ => rfl, fun _ => rfl⟩
      ⟨fun _ _ _ => rfl, fun _ => rfl⟩ (h.called hname hd)

theorem matches_renderPlug (name : String) :
    P.Matches Eq (renderPlug env self₁ t₁ n₁ name)
      (renderPlug env self₂ t₂ n₂ name) := by
  unfold renderPlug
  rw [hn.directiveAttribute?]
  refine matches_bind (matches_renderElement henv h hn) ?_
  rintro content _ rfl
  refine matches_bind (matches_evaluateTruth henv _) ?_
  rintro append _ rfl
  refine matches_bind (matches_change ⟨fun _ _ _ => rfl, fun _ => rfl⟩) ?_
  exact fun _ _ _ => matches_pure rfl

theorem matches_renderSlot (name : String) :
    P.Matches Eq (renderSlot env self₁ t₁ n₁ name)
      (renderSlot env self₂ t₂ n₂ name) := by
  refine matches_bind matches_state fun s₁ s₂ hs => ?_
  have hslots := congrArg RenderState.slots hs.rest
  -- both sides know the same slots, so either both get an anchor or none does
  rw [hslots]
  dsimp only
  cases s₁.slots.recordSlot name with
  | mk anchor slots =>
    cases anchor with
    | none => exact matches_renderElement henv h hn
    | some anchor =>
      refine matches_bind (matches_change ⟨fun _ _ _ => rfl, fun _ => rfl⟩) fun _ _ _ => ?_
      refine matches_bind (matches_renderElement henv h hn) ?_
      rintro content _ rfl
      refine matches_bind (matches_change ⟨fun _ _ _ => rfl, fun _ => rfl⟩) ?_
      exact fun _ _ _ => matches_pure rfl

/-- What stands behind the condition, which is asked for first. -/
theorem matches_conditional :
    P.Matches Eq
      (match n₂.directiveAttribute? "call" with
        | some name => renderCall env self₁ t₁ n₁ name
        | none =>
          match n₂.directiveAttribute? "plug" with
          | some name => renderPlug env self₁ t₁ n₁ name
          | none =>
            match n₂.directiveAttribute? "slot" with
            | some name => renderSlot env self₁ t₁ n₁ name
            | none => renderElement env self₁ t₁ n₁)
      (match n₂.directiveAttribute? "call" with
        | some name => renderCall env self₂ t₂ n₂ name
        | none =>
          match n₂.directiveAttribute? "plug" with
          | some name => renderPlug env self₂ t₂ n₂ name
          | none =>
            match n₂.directiveAttribute? "slot" with
            | some name => renderSlot env self₂ t₂ n₂ name
            | none => renderElement env self₂ t₂ n₂) := by
  split
  · exact matches_renderCall henv h hn ‹_›
  · split
    · exact matches_renderPlug henv h hn _
    · split
      · exact matches_renderSlot henv h hn _
      · exact matches_renderElement henv h hn

theorem matches_renderGuarded :
    P.Matches Eq (renderGuarded env self₁ t₁ n₁)
      (renderGuarded env self₂ t₂ n₂) := by
  unfold renderGuarded
  simp only [hn.directiveAttribute?]
  cases n₂.directiveAttribute? "cond" with
  | none => exact matches_conditional henv h hn
  | some condition =>
    refine matches_bind (matches_evaluateTruth henv _) ?_
    rintro holds _ rfl
    cases holds with
    | false => exact matches_pure rfl
    | true => exact matches_conditional henv h hn

end Inside

/-! ## Walks and macros -/

/-- A walk that is not possible is an error of the expression. -/
theorem isPlain_of_walkItems {value : Value} {expression : String} {e : Error}
    (h : walkItems value expression = .error e) : e.IsPlain := by
  unfold walkItems at h
  dsimp only at h
  generalize (if value.isTruthy then indexed [value] else []) = single at h
  split at h
  · cases h
  · cases h
  · split_ifs at h
    · cases h
      trivial
    · cases h
      trivial
  · cases h

/-- Actions that match, done for every item. -/
theorem matches_forItems {x y : Rendering String} (h : P.Matches Eq x y)
    (count position : Nat) (items : List (Value × Value)) :
    P.Matches Eq (forItems x count position items)
      (forItems y count position items) := by
  induction items generalizing position with
  | nil => exact matches_pure rfl
  | cons entry items ih =>
    obtain ⟨key, item⟩ := entry
    have hitem : P.Matches Eq
        (withLayer item (withIteration ⟨position, count, key⟩ x))
        (withLayer item (withIteration ⟨position, count, key⟩ y)) := by
      refine matches_between ⟨fun _ _ _ => rfl, fun _ => rfl⟩
        ⟨fun _ _ _ => rfl, fun _ => rfl⟩ ?_
      exact matches_between ⟨fun _ _ _ => rfl, fun _ => rfl⟩
        ⟨fun _ _ _ => rfl, fun _ => rfl⟩ h
    refine matches_bind hitem ?_
    rintro output _ rfl
    exact matches_bind (ih _) fun _ _ houtputs => matches_pure (congrArg (output :: ·) houtputs)

theorem matches_renderWalk (henv : env.Raises P.raised) {x y : Rendering String}
    (h : P.Matches Eq x y)
    (hn : P.Kin self₁ self₂ t₁ t₂ n₁ n₂) (expression : String) :
    P.Matches Eq (renderWalk env x n₁ expression)
      (renderWalk env y n₂ expression) := by
  unfold renderWalk
  rw [hn.precedingText]
  refine matches_bind (matches_evaluate henv expression) ?_
  rintro value _ rfl
  refine matches_bind (matches_lift fun e he => henv.plain e (isPlain_of_walkItems he)) ?_
  rintro items _ rfl
  refine matches_bind (matches_forItems h _ _ _) ?_
  rintro outputs _ rfl
  exact matches_pure rfl

/-- An element is registered as a macro beside its counterpart. -/
theorem matches_register {name : String} {i₁ i₂ : Nat}
    (hi : P.registered name ⟨t₁, i₁⟩ ⟨t₂, i₂⟩) :
    P.Matches Eq
      (modify fun s => { s with macros := s.macros.insert name ⟨t₁, i₁⟩ })
      (modify fun s => { s with macros := s.macros.insert name ⟨t₂, i₂⟩ }) := by
  refine matches_modify fun s₁ s₂ (hs : P.Beside s₁ s₂) => ⟨?_, ?_, hs.files, hs.mirror, hs.level⟩
  · exact congrArg (fun s : RenderState => { s with macros := s₂.macros.insert name ⟨t₂, i₂⟩ })
      hs.rest
  · exact insert_of_macrosAlike hs.macros hi

theorem matches_unregistered (henv : env.Raises P.raised)
    (hguarded : P.Matches Eq (renderGuarded env self₁ t₁ n₁)
      (renderGuarded env self₂ t₂ n₂))
    (hn : P.Kin self₁ self₂ t₁ t₂ n₁ n₂) :
    P.Matches Eq
      (match n₂.directiveAttribute? "walk" with
        | some expression => renderWalk env (renderGuarded env self₁ t₁ n₁) n₁ expression
        | none => renderGuarded env self₁ t₁ n₁)
      (match n₂.directiveAttribute? "walk" with
        | some expression => renderWalk env (renderGuarded env self₂ t₂ n₂) n₂ expression
        | none => renderGuarded env self₂ t₂ n₂) := by
  cases n₂.directiveAttribute? "walk" with
  | some expression => exact matches_renderWalk henv hguarded hn expression
  | none => exact hguarded

/-- **Elements that say the same and are no directives render to the same.** -/
theorem matches_renderPlain (henv : env.Raises P.raised) (h : P.Inside self₁ self₂ t₁ t₂ n₁ n₂)
    (hn : P.Kin self₁ self₂ t₁ t₂ n₁ n₂) {i₁ i₂ : Nat}
    (hi : ∀ name, n₂.directiveAttribute? "macro" = some name →
      P.registered name ⟨t₁, i₁⟩ ⟨t₂, i₂⟩) (mode : Mode) :
    P.Matches Eq (renderPlain env self₁ t₁ i₁ n₁ mode)
      (renderPlain env self₂ t₂ i₂ n₂ mode) := by
  have hguarded : P.Matches Eq (renderGuarded env self₁ t₁ n₁)
      (renderGuarded env self₂ t₂ n₂) :=
    matches_renderGuarded henv h hn
  unfold renderPlain
  rw [hn.directiveAttribute?, hn.directiveAttribute?]
  cases mode with
  | called => exact matches_unregistered henv hguarded hn
  | normal =>
    cases hmacro : n₂.directiveAttribute? "macro" with
    | none => exact matches_unregistered henv hguarded hn
    | some name =>
      exact matches_bind (matches_register (hi name hmacro)) fun _ _ _ => matches_pure rfl

end TagTemplate.Rendering
