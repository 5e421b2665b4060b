import Mathlib.Data.List.Forall2
import TagTemplate.Proofs.Error
import TagTemplate.Proofs.Except
import TagTemplate.Render.Document

/-!
# Renderings that match

Two renderings match when, from states that belong together, they give errors that stand for each
other or related values, and leave states behind that belong together. Every way in which renderings
are put together keeps this.

- `Rendering.outcome`: what a rendering gives, with one equation for each way of putting renderings
  together;
- `Comparison`: which states belong together, which errors stand for each other, and which ones may
  stop the first rendering alone;
- `Rendering.Matches`: two renderings that match, with one lemma for each of these ways.
-/

namespace TagTemplate.Rendering

variable {α β γ δ : Type}

/-- What a rendering gives in a state, and the state after it. -/
def outcome (x : Rendering α) (s : RenderState) : Except Error α × RenderState := x.run s

/-- What a rendering that goes too deep ends with. -/
abbrev tooDeep : Error := .fault .tooDeep

/-! ## Outcomes -/

theorem outcome_bind (x : Rendering α) (f : α → Rendering β) (s : RenderState) :
    (x >>= f).outcome s =
      match x.outcome s with
      | (.ok a, s') => (f a).outcome s'
      | (.error e, s') => (.error e, s') := by
  show (match x.outcome s with
    | (r, s') => ExceptT.bindCont f r s' : Except Error β × RenderState) = _
  generalize x.outcome s = p
  obtain ⟨r, s'⟩ := p
  cases r <;> rfl

/-- Both succeed, the second one in the state after the first. -/
theorem outcome_bind_ok_iff {x : Rendering α} {f : α → Rendering β} {s s' : RenderState} {b : β} :
    (x >>= f).outcome s = (.ok b, s') ↔
      ∃ a t, x.outcome s = (.ok a, t) ∧ (f a).outcome t = (.ok b, s') := by
  rw [outcome_bind]
  generalize x.outcome s = p
  obtain ⟨result, t⟩ := p
  cases result with
  | error e => exact ⟨nofun, nofun⟩
  | ok a =>
    constructor
    · exact fun h => ⟨a, t, rfl, h⟩
    · rintro ⟨a, t, ⟨⟩, h⟩
      exact h

/-- Nothing is done behind an error. -/
theorem fails_bind {x : Rendering α} {s : RenderState} {e : Error} (h : (x.outcome s).1 = .error e)
    (f : α → Rendering β) : ((x >>= f).outcome s).1 = .error e := by
  rw [outcome_bind]
  generalize x.outcome s = p at h
  obtain ⟨r, s'⟩ := p
  obtain rfl : r = .error e := h
  rfl

theorem outcome_map (f : α → β) (x : Rendering α) (s : RenderState) :
    (f <$> x).outcome s = ((x.outcome s).1.map f, (x.outcome s).2) := by
  rw [map_eq_pure_bind, outcome_bind]
  generalize x.outcome s = p
  obtain ⟨r, s'⟩ := p
  cases r <;> rfl

@[simp] theorem outcome_pure (a : α) (s : RenderState) :
    (pure a : Rendering α).outcome s = (.ok a, s) := rfl

theorem outcome_during (enter leave : RenderState → RenderState) (x : Rendering α)
    (s : RenderState) :
    (during enter leave x).outcome s =
      ((x.outcome (enter s)).1, leave (x.outcome (enter s)).2) := rfl

theorem outcome_withFrame (x : Rendering α) (s : RenderState) :
    (withFrame x).outcome s =
      let (r, s') := x.outcome { s with frames := .empty :: s.frames }
      (r.map fun a => (a, s'.frames.headD .empty), { s' with frames := s'.frames.tail }) := rfl

theorem outcome_adapt (f : Error → Error) (x : Rendering α) (s : RenderState) :
    outcome (ExceptT.adapt f x) s = ((x.outcome s).1.mapError f, (x.outcome s).2) := rfl

/-! ## Elements and documents -/

/-- An element fails with what its children fail with. -/
theorem fails_renderElement {env : Environment} {self : NodeRenderer} {t : Template} {n : Node}
    {s : RenderState} {e : Error} (htext : n.directiveAttribute? "text" = none)
    (hchildren : ((renderChildren self t n.children).outcome
      { s with frames := .empty :: s.frames }).1 = .error e) :
    ((renderElement env self t n).outcome s).1 = .error e := by
  refine fails_bind ?_ _
  unfold renderBody
  rw [htext, outcome_withFrame]
  dsimp only
  rw [hchildren]
  rfl

theorem ofElement_annotated (t : Template) (n : Node) (e : Error) :
    (e.annotated t n).OfElement := by
  cases e <;> trivial

/-- Whatever goes wrong in an element is annotated when it leaves the element, unless it is a
fault. -/
theorem ofElement_renderNode {env : Environment} {depth : Nat} {t : Template} {i : Nat}
    {mode : Mode} {s : RenderState} :
    FailsAs Error.OfElement ((renderNode env depth t i mode).outcome s).1 := by
  cases depth with
  | zero => exact .error trivial
  | succ depth =>
    show FailsAs _ (outcome (nodeAt t i >>= fun n => ExceptT.adapt (Error.annotated t n) _) s).1
    rw [outcome_bind]
    unfold nodeAt
    cases t.tree.node? i with
    | none => exact .error trivial
    | some n =>
      exact FailsAs.mapError_of_forall fun e => ofElement_annotated t n e

/-- The errors of a template are those of its root. -/
theorem ofElement_renderTemplate {env : Environment} {depth : Nat} {t : Template}
    {s : RenderState} :
    FailsAs Error.OfElement ((renderTemplate (renderNode env depth) t).outcome s).1 := by
  unfold renderTemplate
  split
  · exact ofElement_renderNode
  · exact .ok _
  · exact .ok _

end Rendering

open Rendering in
/-- A document is what its root comes to, finished in the state after it. -/
theorem renderWithin_eq (depth : Nat) (env : Environment) (scope : Scope) (files : FileStore)
    (t : Template) :
    renderWithin depth env scope files t =
      let (result, s) := (renderTemplate (renderNode env depth) t).outcome (.start scope files)
      (result.map s.finish, s.files) := rfl

/-- How two renderings are held against each other. -/
structure Comparison where
  /-- The states that belong together. -/
  state : RenderState → RenderState → Prop
  /-- The errors that stand for each other. -/
  error : Error → Error → Prop
  /-- The errors that come up on both sides alike. -/
  raised : Error → Prop
  error_refl : ∀ e, raised e → error e e
  /-- The errors that may stop the first rendering where the second one goes on. -/
  stops : Error → Prop

namespace Rendering

/-- In states that belong together the renderings give errors that stand for each other, or related
values, and leave states behind that belong together; or an error stops the first one that may. -/
def Matches (C : Comparison) (r : α → β → Prop) (x : Rendering α) (y : Rendering β) : Prop :=
  ∀ s₁ s₂, C.state s₁ s₂ → (∃ e, C.stops e ∧ (x.outcome s₁).1 = .error e) ∨
    Corresponds C.error r (x.outcome s₁).1 (y.outcome s₂).1 ∧
      C.state (x.outcome s₁).2 (y.outcome s₂).2

variable {C : Comparison} {r : α → β → Prop} {t : γ → δ → Prop} {x : Rendering α} {y : Rendering β}

theorem Matches.mono {t : α → β → Prop} (h : Matches C r x y) (hrt : ∀ a b, r a b → t a b) :
    Matches C t x y :=
  fun _ _ hs => (h _ _ hs).imp_right fun ⟨hcorresponds, hs'⟩ => ⟨hcorresponds.mono hrt, hs'⟩

theorem matches_pure {a : α} {b : β} (h : r a b) : Matches C r (pure a) (pure b) :=
  fun _ _ hs => .inr ⟨.ok h, hs⟩

theorem matches_throw {e : Error} (h : C.raised e) : Matches C r (throw e) (throw e) :=
  fun _ _ hs => .inr ⟨.error (C.error_refl e h), hs⟩

/-- A result that does not look at the state. -/
theorem matches_lift {a : Except Error α} (h : ∀ e, a = .error e → C.raised e) :
    Matches C Eq (ExceptT.mk (pure a)) (ExceptT.mk (pure a)) := by
  intro s₁ s₂ hs
  refine .inr ⟨?_, hs⟩
  show Corresponds C.error Eq a a
  cases a with
  | error e => exact .error (C.error_refl e (h e rfl))
  | ok a => exact .ok rfl

theorem matches_get : Matches C C.state get get := fun _ _ hs => .inr ⟨.ok hs, hs⟩

theorem matches_modify {f g : RenderState → RenderState}
    (h : ∀ s₁ s₂, C.state s₁ s₂ → C.state (f s₁) (g s₂)) : Matches C Eq (modify f) (modify g) :=
  fun _ _ hs => .inr ⟨.ok rfl, h _ _ hs⟩

theorem matches_bind {f : α → Rendering γ} {g : β → Rendering δ} (h : Matches C r x y)
    (hf : ∀ a b, r a b → Matches C t (f a) (g b)) : Matches C t (x >>= f) (y >>= g) := by
  intro s₁ s₂ hs
  rw [outcome_bind, outcome_bind]
  have hxy := h s₁ s₂ hs
  generalize x.outcome s₁ = p at hxy
  generalize y.outcome s₂ = q at hxy
  obtain ⟨a, s₁'⟩ := p
  obtain ⟨b, s₂'⟩ := q
  rcases hxy with ⟨e, hstops, hfails⟩ | ⟨hcorresponds, hs'⟩
  · dsimp only at hfails
    subst hfails
    exact .inl ⟨e, hstops, rfl⟩
  · cases hcorresponds with
    | error he => exact .inr ⟨.error he, hs'⟩
    | ok hab => exact hf _ _ hab _ _ hs'

theorem matches_map {f : α → γ} {g : β → δ} (h : Matches C r x y)
    (hf : ∀ a b, r a b → t (f a) (g b)) : Matches C t (f <$> x) (g <$> y) := by
  rw [map_eq_pure_bind, map_eq_pure_bind]
  exact matches_bind h fun a b hab => matches_pure (hf a b hab)

theorem matches_during {enter leave : RenderState → RenderState}
    (henter : ∀ s₁ s₂, C.state s₁ s₂ → C.state (enter s₁) (enter s₂))
    (hleave : ∀ s₁ s₂, C.state s₁ s₂ → C.state (leave s₁) (leave s₂)) (h : Matches C r x y) :
    Matches C r (during enter leave x) (during enter leave y) := by
  intro s₁ s₂ hs
  rw [outcome_during, outcome_during]
  exact (h _ _ (henter _ _ hs)).imp_right fun ⟨hcorresponds, hs'⟩ => ⟨hcorresponds, hleave _ _ hs'⟩

theorem matches_adapt {f g : Error → Error} (hfg : ∀ e₁ e₂, C.error e₁ e₂ → C.error (f e₁) (g e₂))
    (hstops : ∀ e, C.stops e → C.stops (f e)) (h : Matches C r x y) :
    Matches C r (ExceptT.adapt f x) (ExceptT.adapt g y) := by
  intro s₁ s₂ hs
  rw [outcome_adapt, outcome_adapt]
  rcases h s₁ s₂ hs with ⟨e, he, hfails⟩ | ⟨hcorresponds, hs'⟩
  · refine .inl ⟨f e, hstops e he, ?_⟩
    rw [hfails]
    rfl
  · exact .inr ⟨hcorresponds.mapError hfg, hs'⟩

/-! ## Renderings in a row -/

theorem matches_foldlM {f : γ → α → Rendering γ} {g : δ → β → Rendering δ} {l₁ : List α}
    {l₂ : List β} (hl : List.Forall₂ r l₁ l₂)
    (hstep : ∀ c d a b, t c d → r a b → Matches C t (f c a) (g d b)) {c : γ} {d : δ}
    (hcd : t c d) : Matches C t (l₁.foldlM f c) (l₂.foldlM g d) := by
  induction hl generalizing c d with
  | nil => exact matches_pure hcd
  | cons hab _ ih =>
    rw [List.foldlM_cons, List.foldlM_cons]
    exact matches_bind (hstep _ _ _ _ hcd hab) fun _ _ hcd' => ih hcd'

theorem matches_mapM {f : α → Rendering γ} {g : β → Rendering δ} {l₁ : List α} {l₂ : List β}
    (hl : List.Forall₂ r l₁ l₂) (hstep : ∀ a b, r a b → Matches C t (f a) (g b)) :
    Matches C (List.Forall₂ t) (l₁.mapM f) (l₂.mapM g) := by
  induction hl with
  | nil => exact matches_pure .nil
  | cons hab _ ih =>
    rw [List.mapM_cons, List.mapM_cons]
    exact matches_bind (hstep _ _ hab) fun _ _ hc =>
      matches_bind ih fun _ _ hcs => matches_pure (.cons hc hcs)

theorem matches_forIn {f : α → PUnit → Rendering (ForInStep PUnit)}
    {g : β → PUnit → Rendering (ForInStep PUnit)} {l₁ : List α} {l₂ : List β}
    (hl : List.Forall₂ r l₁ l₂) (hstep : ∀ a b, r a b → Matches C Eq (f a ⟨⟩) (g b ⟨⟩)) :
    Matches C Eq (forIn l₁ ⟨⟩ f) (forIn l₂ ⟨⟩ g) := by
  induction hl with
  | nil => exact matches_pure rfl
  | cons hab _ ih =>
    rw [List.forIn_cons, List.forIn_cons]
    refine matches_bind (hstep _ _ hab) ?_
    rintro step _ rfl
    cases step with
    | done => exact matches_pure rfl
    | yield => exact ih

end TagTemplate.Rendering
