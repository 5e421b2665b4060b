import TagTemplate.Proofs.Render.SameElements

/-!
# Renderings that stop at some elements

A renderer counts the include directives around an element, and puts another renderer in place of
the elements that it is told to stop at. A document comes to such an element if it makes a
difference what is put there.

- `Rendering.renderUnless`: renders until it comes to an element that it stops at;
- `Rendering.ComesTo`: the document comes to such an element;
- `matches_renderUnless`: **up to the elements that it stops at, it renders like any renderer that
  includes what it includes**, whatever the limits of the two are.
-/

namespace TagTemplate

/-- The element is an include directive. -/
def Template.isInclude (t : Template) (i : Nat) : Bool :=
  (t.tree.node? i).any fun n => n.directive == some .embed

/-- The environment in which templates can be included up to a level. -/
def Environment.limited (env : Environment) (limit : Nat) : Environment :=
  { env with config := { env.config with maxIncludeDepth := limit } }

namespace Rendering

/-- Tells of which elements to stop at, by the number of include directives around, the element and
the state. -/
abbrev Stop := Nat → Template → Nat → RenderState → Bool

/-- Renders like `renderOver` and counts the include directives around. Elements that it stops at
are up to `instead`, which is told how deep it is and how many include directives there are. -/
def renderUnless (env : Environment) (stop : Stop) (instead : Nat → Nat → NodeRenderer)
    (base : NodeRenderer) : Nat → Nat → NodeRenderer
  | 0, _ => base
  | depth + 1, around => fun t i mode => do
    let s ← get
    if stop around t i s then instead depth around t i mode
    else
      let inside := if t.isInclude i then around + 1 else around
      renderWith env (renderUnless env stop instead base depth inside) t i mode

/-- The document comes to an element that would be stopped at: what is put there makes a difference,
as an error always would. -/
def ComesTo (env : Environment) (depth : Nat) (scope : Scope) (store : FileStore) (t : Template)
    (stop : Stop) : Prop :=
  ∃ instead, (renderTemplate (renderUnless env stop instead exhausted depth 0) t).outcome
      (.start scope store) ≠
    (renderTemplate (renderNode env depth) t).outcome (.start scope store)

variable {env : Environment} {stop stop' : Stop} {instead instead' : Nat → Nat → NodeRenderer}
  {base : NodeRenderer}

theorem outcome_renderUnless (depth around : Nat) (t : Template) (i : Nat) (mode : Mode)
    (s : RenderState) :
    (renderUnless env stop instead base (depth + 1) around t i mode).outcome s =
      if stop around t i s then (instead depth around t i mode).outcome s
      else (renderWith env (renderUnless env stop instead base depth
        (if t.isInclude i then around + 1 else around)) t i mode).outcome s := by
  show (outcome (if stop around t i s then _ else _ : Rendering String) s) = _
  split <;> rfl

/-- Stopping nowhere. -/
theorem renderUnless_never (depth around : Nat) :
    renderUnless env (fun _ _ _ _ => false) instead base depth around =
      renderOver env base depth := by
  induction depth generalizing around with
  | zero => rfl
  | succ depth ih =>
    funext t i mode
    show renderWith env (renderUnless env _ instead base depth _) t i mode = _
    rw [ih]
    rfl

/-! ## Renderings up to the elements that are stopped at -/

/-- The same elements inside of a number of include directives, with limits for them that may
differ. Errors may stop the first rendering. -/
def levelPairing (files : FileStore → Prop) (stops : Error → Prop) (limit around : Nat) : Pairing :=
  .ofSame (fun _ _ => True) (fun l => l = around ∧ l ≤ limit) files Eq (fun _ => True)
    (fun _ _ => rfl) stops

variable {files : FileStore → Prop} {stops : Error → Prop} {limit₁ limit₂ : Nat}
  {base₁ base₂ : NodeRenderer}

/-- An element says the same as itself. -/
theorem ownKin_levelPairing (hstops : ∀ t n e, stops e → stops (Error.annotated t n e))
    (around : Nat) (t : Template) : OwnKin (levelPairing files stops limit₁ around) t :=
  ⟨trivial, fun _ => ⟨rfl, rfl⟩, fun _ _ _ _ => congrArg _, fun m _ => hstops t m⟩

/-- How two limits can stand to each other at an include directive inside of so many others: both
let it include something, or they are the same, or the first one is reached, and its error stops the
rendering. -/
inductive Limits (stops : Error → Prop) (limit₁ limit₂ around : Nat) : Prop
  | below : around < limit₁ → around < limit₂ → Limits stops limit₁ limit₂ around
  | same : limit₁ = limit₂ → Limits stops limit₁ limit₂ around
  | reached : limit₁ ≤ around → (∀ file, stops (.includeDepth file limit₁)) →
    Limits stops limit₁ limit₂ around

/-- If the error at the first limit stops the rendering, a second one that is not lower will do. -/
theorem Limits.of_le (hle : limit₁ ≤ limit₂) (hfile : ∀ file, stops (.includeDepth file limit₁))
    (around : Nat) : Limits stops limit₁ limit₂ around := by
  rcases Nat.lt_or_ge around limit₁ with hlt | hge
  · exact .below hlt (hlt.trans_le hle)
  · exact .reached hge hfile

/-- An include directive renders to the same on both sides, if the limits allow for it. -/
theorem matches_renderEmbed_limited (hloads : env.Loads files fun _ _ => True)
    (hstops : ∀ t n e, stops e → stops (Error.annotated t n e)) {self₁ self₂ : NodeRenderer}
    {around : Nat} {t : Template} {n : Node} (hn : n ∈ t.tree.nodes)
    (hinside : ∀ u i, (levelPairing files stops limit₁ (around + 1)).Matches Eq (self₁ u i .normal)
      (self₂ u i .normal))
    (hlimits : Limits stops limit₁ limit₂ around) :
    (levelPairing files stops limit₁ around).Matches Eq (renderEmbed (env.limited limit₁) self₁ t n)
      (renderEmbed (env.limited limit₂) self₂ t n) := by
  have hkin : (levelPairing files stops limit₁ around).Kin (fun _ _ _ => pure "")
      (fun _ _ _ => pure "") t t n n :=
    (ownKin_levelPairing hstops around t).kin hn fun _ _ => matches_pure rfl
  have hincluded : around < limit₁ → (levelPairing files stops limit₁ around).Matches Eq
      (renderIncluded (env.limited limit₁) self₁ t n)
      (renderIncluded (env.limited limit₂) self₂ t n) := by
    intro hlimit
    refine @matches_renderIncluded env env.config.fold env.config.fold env.cache env.cache
      _ _ _ _ _ _ _ _ _ hkin (fun l => l = around + 1 ∧ l ≤ limit₁) (fun l hl => ?_)
      (fun l hl => ?_)
      fun file => ?_
    · obtain ⟨rfl, -⟩ := hl
      exact ⟨rfl, hlimit⟩
    · obtain ⟨rfl, -⟩ := hl
      exact ⟨rfl, hlimit.le⟩
    · refine @Matches.mono _ _ _ _ _ _ _ (matches_loadSame env.raises_any (fun _ _ => Iff.rfl)
        hloads file) ?_
      rintro _ u ⟨rfl, -⟩
      exact matches_sameRoot rfl fun i _ => hinside u i
  -- the limits agree, or neither is reached here, or the first is and rendering stops
  cases hlimits with
  | below h₁ h₂ =>
    intro s₁ s₂ (hs : Pairing.Beside _ s₁ s₂)
    obtain rfl := eq_of_beside (fun _ _ _ => And.left) (fun _ _ => Iff.rfl) hs
    obtain ⟨hlevel, -⟩ := hs.level
    rw [outcome_renderEmbed_of_lt (env.limited limit₁) (hlevel.trans_lt h₁),
      outcome_renderEmbed_of_lt (env.limited limit₂) (hlevel.trans_lt h₂)]
    exact hincluded h₁ _ _ hs
  | same hsame =>
    obtain rfl := hsame
    refine @matches_renderEmbed (env.limited limit₁) env.config.fold env.config.fold env.cache
      env.cache _ _ _ _ _ _ _ _ _ (env.limited limit₁).raises_any hkin
      fun ⟨l, ⟨hl, _⟩, hlimit⟩ => ?_
    obtain rfl := hl
    exact hincluded hlimit
  | reached h₁ hfile =>
    intro s₁ s₂ (hs : Pairing.Beside _ s₁ s₂)
    obtain ⟨hlevel, -⟩ := hs.level
    refine .inl ⟨_, hfile (resolveFile (env.limited limit₁) t s₁.files (required n "file")), ?_⟩
    rw [outcome_renderEmbed_of_le (env.limited limit₁) (h₁.trans_eq hlevel.symm)]
    rfl

/-- One element: it renders to the same on both sides if all that is rendered inside of it does, one
level further inside for an include directive. -/
theorem matches_renderWith_inside (hloads : env.Loads files fun _ _ => True)
    (hstops : ∀ t n e, stops e → stops (Error.annotated t n e)) {self₁ : NodeRenderer}
    {self₂ : Nat → NodeRenderer} {around : Nat} (hinside : ∀ level, around ≤ level → ∀ u j mode,
      (levelPairing files stops limit₁ level).Matches Eq (self₁ u j mode) (self₂ level u j mode))
    {t : Template} {i : Nat} (hlimits : t.isInclude i = true → Limits stops limit₁ limit₂ around)
    (mode : Mode) :
    (levelPairing files stops limit₁ around).Matches Eq
      (renderWith (env.limited limit₁) self₁ t i mode)
      (renderWith (env.limited limit₂) (self₂ (if t.isInclude i then around + 1 else around)) t i
        mode) := by
  have hown : OwnKin (levelPairing files stops limit₁ around) t :=
    ownKin_levelPairing hstops around t
  refine matches_atNode_same trivial hown.annotated hown.stops i fun n hn => ?_
  have hmem := List.mem_of_getElem? hn
  by_cases hdirective : n.directive = some .embed
  · -- the elements of the template that is included are inside of one more directive
    have hinclude : t.isInclude i = true := by
      rw [Template.isInclude, hn, Option.any_some, hdirective]
      rfl
    rw [hinclude, if_pos rfl, hdirective]
    exact matches_renderEmbed_limited hloads hstops hmem
      (fun u j => hinside (around + 1) (Nat.le_succ around) u j .normal) (hlimits hinclude)
  · have hinclude : t.isInclude i = false := by
      rw [Template.isInclude, hn, Option.any_some]
      exact beq_false_of_ne hdirective
    rw [hinclude, if_neg Bool.false_ne_true]
    have hchildren : ∀ j, (levelPairing files stops limit₁ around).Matches Eq (self₁ t j .normal)
        (self₂ around t j .normal) := fun j => hinside around (Nat.le_refl _) t j .normal
    refine @matches_sameElement env env.config.fold env.config.fold env.cache env.cache limit₁
      limit₂ _ t _ _ n env.raises_any hown hmem (fun j _ => hchildren j) ?_ i
      (fun _ _ => ⟨rfl, trivial⟩) (fun _ => ?_) (fun hembed => absurd hembed hdirective) mode
    · rintro name d _ - ⟨rfl, -⟩
      exact hinside around (Nat.le_refl _) _ _ .called
    · exact matches_renderCData env.raises_any (fun _ _ => Iff.rfl)
        (hown.kin hmem fun j _ => hchildren j)

/-- **Up to the elements that it stops at, a rendering goes like any other that includes what it
includes**: at an element that is stopped at, the other rendering fails in a way that may stop it,
or in the same way as what is put there. The level that it starts on is the lowest one. -/
theorem matches_renderUnless (hloads : env.Loads files fun _ _ => True)
    (hstops : ∀ t n e, stops e → stops (Error.annotated t n e)) {lowest : Nat}
    (hbase : ∀ around t i mode, (levelPairing files stops limit₁ around).Matches Eq
      (base₁ t i mode) (base₂ t i mode))
    (hstop : ∀ depth around t i mode s, lowest ≤ around → files s.files → s.includeDepth = around →
      around ≤ limit₁ → stop around t i s = true →
      ∃ e, ((renderOver (env.limited limit₁) base₁ (depth + 1) t i mode).outcome s).1 = .error e ∧
        (stops e ∨ (renderOver (env.limited limit₁) base₁ (depth + 1) t i mode).outcome s =
            (.error e, s) ∧ (instead depth around t i mode).outcome s = (.error e, s)))
    (hgo : ∀ around t i s, around ≤ limit₁ → s.includeDepth = around → t.isInclude i = true →
      stop around t i s = false → Limits stops limit₁ limit₂ around)
    (depth around : Nat) (hlowest : lowest ≤ around) (t : Template) (i : Nat) (mode : Mode) :
    (levelPairing files stops limit₁ around).Matches Eq
      (renderOver (env.limited limit₁) base₁ depth t i mode)
      (renderUnless (env.limited limit₂) stop instead base₂ depth around t i mode) := by
  -- every element is a unit of depth, whichever template it is of
  induction depth generalizing around t i mode with
  | zero => exact hbase around t i mode
  | succ depth ih =>
    intro s₁ s₂ (hs : Pairing.Beside _ s₁ s₂)
    obtain rfl := eq_of_beside (fun _ _ _ => And.left) (fun _ _ => Iff.rfl) hs
    obtain ⟨hlevel, hlimit⟩ := hs.level
    replace hlimit : around ≤ limit₁ := hlevel ▸ hlimit
    rw [outcome_renderUnless]
    cases hstopped : stop around t i s₂ with
    | true =>
      rw [if_pos rfl]
      obtain ⟨e, hfails, he | ⟨hsame, hinstead⟩⟩ :=
        hstop depth around t i mode s₂ hlowest hs.files hlevel hlimit hstopped
      · exact .inl ⟨e, he, hfails⟩
      · rw [hsame, hinstead]
        exact .inr ⟨.error rfl, hs⟩
    | false =>
      rw [if_neg Bool.false_ne_true]
      exact matches_renderWith_inside hloads hstops
        (fun level hle u j mode => ih level (Nat.le_trans hlowest hle) u j mode)
        (fun hinclude => hgo around t i s₂ hlimit hlevel hinclude hstopped) mode _ _ hs

/-! ## Two renderings of a document -/

/-- From the same state, both give the same, or an error stops the first one. -/
theorem same_of_matches {α : Type} {x y : Rendering α}
    (h : (levelPairing files stops limit around).Matches Eq x y) {s : RenderState}
    (hfiles : files s.files) (hlevel : s.includeDepth = around) (hlimit : around ≤ limit) :
    (∃ e, (x.outcome s).1 = .error e ∧ stops e) ∨ y.outcome s = x.outcome s := by
  have hs : (levelPairing files stops limit around).Beside s s :=
    ⟨rfl, List.forall₂_same.2 fun _ _ => ⟨rfl, rfl, trivial⟩, hfiles, rfl, hlevel,
      hlevel ▸ hlimit⟩
  rcases h s s hs with ⟨e, he, hx⟩ | ⟨hresult, hstate⟩
  · exact .inl ⟨e, hx, he⟩
  · have hsame := eq_of_beside (fun _ _ _ => And.left) (fun _ _ => Iff.rfl) hstate
    exact .inr (Prod.ext hresult.eq.symm hsame)

/-- A document comes to elements if its output changes with what is put there. -/
theorem comesTo_of_output (instead : Nat → Nat → NodeRenderer) (output : String)
    (h : ((renderTemplate (renderUnless env stop instead exhausted depth 0) t).outcome
      (.start scope store)).1.toOption = some output)
    (hother : ((renderTemplate (renderNode env depth) t).outcome
      (.start scope store)).1.toOption ≠ some output) :
    ComesTo env depth scope store t stop :=
  ⟨instead, fun hsame => hother (hsame ▸ h)⟩

/-- More elements that are stopped at. -/
theorem ComesTo.mono (h : ComesTo env depth scope store t stop)
    (himp : ∀ around u i s, stop around u i s = true → stop' around u i s = true) :
    ComesTo env depth scope store t stop' := by
  obtain ⟨instead, hne⟩ := h
  -- at an element that only `stop'` stops at, the rendering goes on as if it did not
  let instead' : Nat → Nat → NodeRenderer := fun depth around =>
    renderUnless env stop instead exhausted (depth + 1) around
  have hsame : ∀ depth around, renderUnless env stop' instead' exhausted depth around =
      renderUnless env stop instead exhausted depth around := by
    intro depth
    induction depth with
    | zero => exact fun _ => rfl
    | succ depth ih =>
      intro around
      funext u i mode s
      show outcome (renderUnless env stop' instead' exhausted (depth + 1) around u i mode) s =
        outcome (renderUnless env stop instead exhausted (depth + 1) around u i mode) s
      rw [outcome_renderUnless]
      split
      · rfl
      · rename_i hstop'
        rw [outcome_renderUnless, if_neg (mt (himp around u i s) hstop'), ih]
  exact ⟨instead', hsame depth 0 ▸ hne⟩

/-- A document renders as it does up to the elements that are stopped at, or fails in a way that may
stop it. -/
theorem same_or_stops (env : Environment) (stops : Error → Prop) (limit₁ limit₂ : Nat) (stop : Stop)
    (instead : Nat → Nat → NodeRenderer) (depth : Nat) (scope : Scope) (store : FileStore)
    (t : Template) (hstops : ∀ t n e, stops e → stops (Error.annotated t n e))
    (hstop : ∀ depth around t i mode s, s.includeDepth = around → around ≤ limit₁ →
      stop around t i s = true →
      ∃ e, (renderOver (env.limited limit₁) exhausted (depth + 1) t i mode).outcome s =
        (.error e, s) ∧ (stops e ∨ (instead depth around t i mode).outcome s = (.error e, s)))
    (hgo : ∀ around t i s, around ≤ limit₁ → t.isInclude i = true → stop around t i s = false →
      Limits stops limit₁ limit₂ around) :
    (∃ e, ((renderTemplate (renderNode (env.limited limit₁) depth) t).outcome
        (.start scope store)).1 = .error e ∧ stops e) ∨
      (renderTemplate (renderUnless (env.limited limit₂) stop instead exhausted depth 0) t).outcome
          (.start scope store) =
        (renderTemplate (renderNode (env.limited limit₁) depth) t).outcome
          (.start scope store) := by
  rw [renderNode_eq_renderOver]
  have hmatches : (levelPairing (fun _ => True) stops limit₁ 0).Matches Eq
      (renderTemplate (renderOver (env.limited limit₁) exhausted depth) t)
      (renderTemplate (renderUnless (env.limited limit₂) stop instead exhausted depth 0) t) := ?_
  · exact same_of_matches hmatches trivial rfl (Nat.zero_le limit₁)
  refine matches_sameRoot rfl fun i _ => ?_
  refine matches_renderUnless ⟨fun _ _ => trivial, fun _ => trivial⟩ hstops
    (fun _ _ _ _ => matches_throw trivial) ?_ (fun around t i s hlimit _ => hgo around t i s hlimit)
    depth 0 (Nat.le_refl 0) t i .normal
  intro depth around t i mode s _ _ hlevel hlimit hstopped
  obtain ⟨e, hfails, hinstead⟩ := hstop depth around t i mode s hlevel hlimit hstopped
  exact ⟨e, congrArg Prod.fst hfails, hinstead.imp_right fun h => ⟨hfails, h⟩⟩

end Rendering

end TagTemplate
