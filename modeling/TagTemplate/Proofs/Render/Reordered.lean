import TagTemplate.Proofs.Expr.Reordering
import TagTemplate.Proofs.Render.Agreement

/-!
# States that differ in the order of the universe

A rendering is indifferent to the order of the universe's entries if, from states that differ in it
only, it gives the same and leaves such states behind. Every way in which renderings are put
together keeps this. How many layers are on is known all the time, since it decides what `.` and
`..` are.

- `Known`: what is known of the macros and files of a rendering;
- `Known.Reordered`: states that differ in the order of the universe only;
- `Known.Indifferent`: the renderings that do not depend on it, with one lemma for each way of
  putting them together.
-/

namespace TagTemplate

open Rendering

/-! ## States -/

/-- What is known of the macros and files of a rendering. -/
structure Known where
  registered : String → Macro → Prop
  files : FileStore → Prop

/-- A change of the state that has no part in the scope, the macros and the files. -/
structure RenderState.Aside (f : RenderState → RenderState) : Prop where
  scope : ∀ s scope, f { s with scope } = { f s with scope }
  macros : ∀ s, (f s).macros = s.macros
  files : ∀ s, (f s).files = s.files

namespace Known

/-- Two states that differ in the order of the universe only, with so many layers over it. -/
structure Reordered (K : Known) (layers : Nat) (s₁ s₂ : RenderState) : Prop where
  rest : s₂ = { s₁ with scope := s₂.scope }
  scope : s₁.scope.Reordered s₂.scope
  layers : s₁.scope.layers.length = layers
  macros : ∀ name m, s₁.macros.get? name = some m → K.registered name m
  files : K.files s₁.files

/-- The two renderings end with the same error or none. -/
def comparison (K : Known) (layers : Nat) : Comparison where
  state := K.Reordered layers
  error := Eq
  raised _ := True
  error_refl _ _ := rfl
  stops _ := False

/-- Under so many layers, the rendering does not depend on the order of the universe. -/
abbrev Indifferent {α : Type} (K : Known) (layers : Nat) (x : Rendering α) : Prop :=
  Matches (K.comparison layers) Eq x x

variable {α β : Type} {K : Known} {l : Nat} {s₁ s₂ : RenderState} {x : Rendering α}

namespace Reordered

theorem change (h : K.Reordered l s₁ s₂) {f : RenderState → RenderState}
    (hf : RenderState.Aside f) : K.Reordered l (f s₁) (f s₂) := by
  have hscope : ∀ s, (f s).scope = s.scope := fun s =>
    (congrArg RenderState.scope (hf.scope s s.scope) :)
  refine ⟨?_, ?_, ?_, ?_, ?_⟩
  · rw [hscope]
    exact (congrArg f h.rest).trans (hf.scope s₁ s₂.scope)
  · rw [hscope, hscope]
    exact h.scope
  · rw [hscope]
    exact h.layers
  · rw [hf.macros]
    exact h.macros
  · rw [hf.files]
    exact h.files

/-- Both scopes are changed alike. -/
theorem rescope (h : K.Reordered l s₁ s₂) {f : Scope → Scope} {l' : Nat}
    (hscope : (f s₁.scope).Reordered (f s₂.scope)) (hlayers : (f s₁.scope).layers.length = l') :
    K.Reordered l' { s₁ with scope := f s₁.scope } { s₂ with scope := f s₂.scope } :=
  ⟨congrArg (fun s : RenderState => { s with scope := f s₂.scope }) h.rest, hscope, hlayers,
    h.macros, h.files⟩

theorem files_eq (h : K.Reordered l s₁ s₂) : s₂.files = s₁.files :=
  (congrArg RenderState.files h.rest :)

end Reordered

/-! ## Renderings in a row -/

theorem indifferent_pure (a : α) : K.Indifferent l (pure a) := matches_pure rfl

theorem indifferent_throw (e : Error) : K.Indifferent l (throw e : Rendering α) :=
  matches_throw trivial

theorem indifferent_lift (r : Except Error α) : K.Indifferent l (ExceptT.mk (pure r)) :=
  matches_lift fun _ _ => trivial

theorem indifferent_bind {f : α → Rendering β} (h : K.Indifferent l x)
    (hf : ∀ a, K.Indifferent l (f a)) : K.Indifferent l (x >>= f) := by
  refine matches_bind h ?_
  rintro a _ rfl
  exact hf a

theorem indifferent_map (f : α → β) (h : K.Indifferent l x) : K.Indifferent l (f <$> x) :=
  matches_map h fun _ _ => congrArg f

/-- What is read of the state does not depend on the scope. -/
theorem indifferent_get {f : RenderState → Rendering α}
    (hscope : ∀ s scope, f { s with scope } = f s)
    (h : ∀ s, (∀ name m, s.macros.get? name = some m → K.registered name m) →
      K.Indifferent l (f s)) : K.Indifferent l (get >>= f) := by
  refine matches_bind matches_get fun s₁ s₂ (hs : K.Reordered l s₁ s₂) => ?_
  have hsame : f s₂ = f s₁ := (congrArg f hs.rest).trans (hscope s₁ s₂.scope)
  rw [hsame]
  exact h s₁ hs.macros

theorem indifferent_modify {f : RenderState → RenderState} (hf : RenderState.Aside f) :
    K.Indifferent l (modify f) :=
  matches_modify fun _ _ (hs : K.Reordered l _ _) => hs.change hf

theorem indifferent_during {enter leave : RenderState → RenderState}
    (henter : RenderState.Aside enter) (hleave : RenderState.Aside leave)
    (h : K.Indifferent l x) : K.Indifferent l (during enter leave x) :=
  matches_during (fun _ _ (hs : K.Reordered l _ _) => hs.change henter)
    (fun _ _ (hs : K.Reordered l _ _) => hs.change hleave) h

/-- With one more layer on, one more is known to be on. -/
theorem indifferent_withLayer (layer : Value) (h : K.Indifferent (l + 1) x) :
    K.Indifferent l (withLayer layer x) := by
  intro s₁ s₂ (hs : K.Reordered l s₁ s₂)
  have henter : K.Reordered (l + 1) { s₁ with scope := s₁.scope.push layer }
      { s₂ with scope := s₂.scope.push layer } :=
    hs.rescope (f := fun scope => scope.push layer) (hs.scope.push layer)
      (congrArg (· + 1) hs.layers)
  refine (h _ _ henter).imp_right fun ⟨hcorresponds, hs'⟩ => ⟨hcorresponds, ?_⟩
  replace hs' : K.Reordered (l + 1) _ _ := hs'
  refine hs'.rescope (f := fun scope => scope.pop.2) hs'.scope.pop ?_
  have hlayers := hs'.layers
  generalize (x.outcome _).2.scope = scope at hlayers
  obtain ⟨base, _ | ⟨layer, layers⟩⟩ := scope
  · cases hlayers
  · exact Nat.succ.inj hlayers

theorem indifferent_withFrame (h : K.Indifferent l x) : K.Indifferent l (withFrame x) := by
  intro s₁ s₂ (hs : K.Reordered l s₁ s₂)
  have henter : K.Reordered l { s₁ with frames := .empty :: s₁.frames }
      { s₂ with frames := .empty :: s₂.frames } :=
    hs.change (f := fun s => { s with frames := .empty :: s.frames })
      ⟨fun _ _ => rfl, fun _ => rfl, fun _ => rfl⟩
  rw [outcome_withFrame, outcome_withFrame]
  obtain ⟨hcorresponds, hs'⟩ := (h _ _ henter).resolve_left fun ⟨_, hnever, _⟩ => hnever
  replace hs' : K.Reordered l _ _ := hs'
  have hframes := congrArg RenderState.frames hs'.rest
  refine .inr ⟨hcorresponds.map fun a b hab => ?_, ?_⟩
  · rw [hab, hframes]
  · exact hs'.change (f := fun s => { s with frames := s.frames.tail })
      ⟨fun _ _ => rfl, fun _ => rfl, fun _ => rfl⟩

/-- A list beside itself. -/
theorem forall₂_self_mem (as : List α) : as.Forall₂ (fun a₁ a₂ => a₁ = a₂ ∧ a₁ ∈ as) as :=
  List.forall₂_same.2 fun _ ha => ⟨rfl, ha⟩

theorem indifferent_foldlM {f : β → α → Rendering β} {as : List α}
    (h : ∀ b, ∀ a ∈ as, K.Indifferent l (f b a)) (b : β) : K.Indifferent l (as.foldlM f b) := by
  refine matches_foldlM (forall₂_self_mem as) ?_ rfl
  rintro b _ a _ rfl ⟨rfl, ha⟩
  exact h b a ha

theorem indifferent_mapM {f : α → Rendering β} {as : List α}
    (h : ∀ a ∈ as, K.Indifferent l (f a)) : K.Indifferent l (as.mapM f) := by
  refine (matches_mapM (t := Eq) (forall₂_self_mem as) ?_).mono fun _ _ =>
    List.forall₂_eq_eq_eq ▸ id
  rintro a _ ⟨rfl, ha⟩
  exact h a ha

theorem indifferent_forIn {f : α → PUnit → Rendering (ForInStep PUnit)} {as : List α}
    (h : ∀ a ∈ as, K.Indifferent l (f a ⟨⟩)) : K.Indifferent l (forIn as ⟨⟩ f) := by
  refine matches_forIn (forall₂_self_mem as) ?_
  rintro a _ ⟨rfl, ha⟩
  exact h a ha

theorem indifferent_nodeAt {t : Template} {i : Nat} {f : Node → Rendering α}
    (h : ∀ n, t.tree.node? i = some n → K.Indifferent l (f n)) :
    K.Indifferent l (nodeAt t i >>= f) := by
  have hnode : Matches (K.comparison l) (fun n₁ n₂ => n₁ = n₂ ∧ t.tree.node? i = some n₁)
      (nodeAt t i) (nodeAt t i) := by
    unfold nodeAt
    cases hn : t.tree.node? i with
    | none => exact matches_throw trivial
    | some n => exact matches_pure ⟨rfl, rfl⟩
  refine matches_bind hnode ?_
  rintro n _ ⟨rfl, hn⟩
  exact h n hn

end Known

end TagTemplate
