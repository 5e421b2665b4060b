import TagTemplate.Proofs.OrderedMap
import TagTemplate.Proofs.Render.Agreement
import TagTemplate.Proofs.Slots.Pass

/-!
# What a rendering puts back

A rendering changes its state for good in few ways: it sets names of the universe, notes macros,
dictionaries and the doctype, makes attributes for the innermost element around, and adds slots and
plugs behind those that are there. Layers, iterations, frames and include levels are put on and
taken off again, and this holds however the rendering ends.

- `RenderState.Restored`: the second state has everything of the first one that a rendering leaves;
- `Rendering.Restores`: a rendering whose last state is always restored, with one lemma for each way
  of putting renderings together.
-/

namespace TagTemplate

/-! ## States that are restored -/

namespace RenderState

/-- What the second state still has of the first one. -/
structure Restored (s t : RenderState) : Prop where
  layers : t.scope.layers = s.scope.layers
  names : s.scope.base.keys <+: t.scope.base.keys
  iterations : t.iterations = s.iterations
  includeDepth : t.includeDepth = s.includeDepth
  frameCount : t.frames.length = s.frames.length
  outerFrames : t.frames.tail = s.frames.tail
  lengths : s.slots.lengths.entries <+: t.slots.lengths.entries
  queue : s.slots.queue <+: t.slots.queue

namespace Restored

variable {s t u : RenderState}

theorem refl (s : RenderState) : s.Restored s :=
  ⟨rfl, List.prefix_rfl, rfl, rfl, rfl, rfl, List.prefix_rfl, List.prefix_rfl⟩

theorem trans (hst : s.Restored t) (htu : t.Restored u) : s.Restored u where
  layers := htu.layers.trans hst.layers
  names := hst.names.trans htu.names
  iterations := htu.iterations.trans hst.iterations
  includeDepth := htu.includeDepth.trans hst.includeDepth
  frameCount := htu.frameCount.trans hst.frameCount
  outerFrames := htu.outerFrames.trans hst.outerFrames
  lengths := hst.lengths.trans htu.lengths
  queue := hst.queue.trans htu.queue

/-- Macros, dictionaries, the doctype and the files may change freely. -/
theorem of_same (hscope : t.scope = s.scope) (hiterations : t.iterations = s.iterations)
    (hdepth : t.includeDepth = s.includeDepth) (hframes : t.frames = s.frames)
    (hslots : t.slots = s.slots) : s.Restored t := by
  refine ⟨by rw [hscope], ?_, hiterations, hdepth, by rw [hframes], by rw [hframes], ?_, ?_⟩
  · exact hscope ▸ List.prefix_rfl
  · exact hslots ▸ List.prefix_rfl
  · exact hslots ▸ List.prefix_rfl

theorem mount (s : RenderState) (name : String) (value : Value) :
    s.Restored { s with scope := s.scope.mount name value } := by
  refine { refl s with names := ?_, layers := rfl }
  show s.scope.base.keys <+: (s.scope.base.insert name value).keys
  rw [OrderedMap.keys_insert]
  split
  · exact List.prefix_rfl
  · exact List.prefix_append ..

/-- A plug goes behind those already there. -/
theorem queuePlug (s : RenderState) (name : String) (plug : Plug) :
    s.Restored { s with slots := s.slots.queuePlug name plug } :=
  { refl s with queue := List.prefix_append .., lengths := List.prefix_rfl }

/-- A slot is noted down behind the others. -/
theorem recordSlot {name : String}
    (h : { s with slots := (s.slots.recordSlot name).2 }.Restored t) : s.Restored t := by
  cases hname : s.slots.lengths.contains name with
  | true =>
    rw [Slots.recordSlot_known hname] at h
    exact h
  | false =>
    rw [Slots.recordSlot_new hname] at h
    refine { h with lengths := List.IsPrefix.trans ?_ h.lengths }
    show s.slots.lengths.entries <+: (s.slots.lengths.insert name 0).entries
    rw [OrderedMap.entries_insert_of_notMem (OrderedMap.notMem_keys_of_contains hname)]
    exact List.prefix_append ..

/-- The length of a slot that was not there before is set without touching the others. -/
theorem setLength {name : String} (hname : s.slots.lengths.contains name = false)
    (h : s.Restored t) (length : Nat) :
    s.Restored { t with slots := t.slots.setLength name length } := by
  unfold Slots.setLength
  split
  · have hkey := OrderedMap.notMem_keys_of_contains hname
    exact { h with lengths := OrderedMap.prefix_insertEntry h.lengths hkey length }
  · exact h

end Restored

end RenderState

/-! ## Renderings that restore the state -/

namespace Rendering

variable {α β γ : Type} {x : Rendering α}

/-- The state after the rendering is restored, whether or not it fails. -/
def Restores (x : Rendering α) : Prop :=
  ∀ s : RenderState, s.Restored (x.outcome s).2

theorem restores_pure (a : α) : Restores (pure a : Rendering α) := RenderState.Restored.refl

theorem restores_throw (e : Error) : Restores (throw e : Rendering α) := RenderState.Restored.refl

/-- A result that does not look at the state. -/
theorem restores_lift (result : Except Error α) :
    Restores (ExceptT.mk (pure result) : Rendering α) :=
  RenderState.Restored.refl

theorem restores_get : Restores (get : Rendering RenderState) := RenderState.Restored.refl

theorem restores_modify {f : RenderState → RenderState}
    (h : ∀ s : RenderState, s.Restored (f s)) :
    Restores (modify f : Rendering Unit) := h

theorem restores_bind {f : α → Rendering β} (h : Restores x) (hf : ∀ a, Restores (f a)) :
    Restores (x >>= f) := by
  intro s
  rw [outcome_bind]
  have hx := h s
  generalize x.outcome s = p at hx
  obtain ⟨result, s'⟩ := p
  cases result with
  | error e => exact hx
  | ok a => exact hx.trans (hf a s')

theorem restores_map (f : α → β) (h : Restores x) : Restores (f <$> x) := by
  intro s
  rw [outcome_map]
  exact h s

theorem restores_adapt (f : Error → Error) (h : Restores x) : Restores (ExceptT.adapt f x) := by
  intro s
  rw [outcome_adapt]
  exact h s

/-- What is put on before is taken off after. -/
theorem restores_during {enter leave : RenderState → RenderState}
    (hback : ∀ s t, (enter s).Restored t → s.Restored (leave t)) (h : Restores x) :
    Restores (during enter leave x) := by
  intro s
  rw [outcome_during]
  exact hback s _ (h (enter s))

theorem restores_withLayer (layer : Value) (h : Restores x) : Restores (withLayer layer x) := by
  refine restores_during (fun s t ht => ?_) h
  have hlayers : t.scope.layers = layer :: s.scope.layers := ht.layers
  have hpop : t.scope.pop.2 = { t.scope with layers := s.scope.layers } := by
    rw [Scope.pop, hlayers]
  refine { ht with layers := ?_, names := ?_ }
  · show t.scope.pop.2.layers = s.scope.layers
    rw [hpop]
  · show s.scope.base.keys <+: t.scope.pop.2.base.keys
    rw [hpop]
    exact ht.names

theorem restores_withIteration (iteration : Iteration) (h : Restores x) :
    Restores (withIteration iteration x) := by
  refine restores_during (fun s t ht => { ht with iterations := ?_ }) h
  have hiterations : t.iterations = iteration :: s.iterations := ht.iterations
  show t.iterations.tail = s.iterations
  rw [hiterations, List.tail_cons]

theorem restores_withInclude (h : Restores x) : Restores (withInclude x) := by
  refine restores_during (fun s t ht => { ht with includeDepth := ?_ }) h
  have hdepth : t.includeDepth = s.includeDepth + 1 := ht.includeDepth
  show t.includeDepth - 1 = s.includeDepth
  rw [hdepth, Nat.add_sub_cancel]

/-- The attributes made inside go into the new frame, so that all frames around stay as they
were. -/
theorem restores_withFrame (h : Restores x) : Restores (withFrame x) := by
  intro s
  rw [outcome_withFrame]
  have hx := h { s with frames := .empty :: s.frames }
  have houter : ((x.outcome { s with frames := .empty :: s.frames }).2).frames.tail = s.frames :=
    hx.outerFrames
  exact { hx with
    frameCount := congrArg List.length houter, outerFrames := congrArg List.tail houter }

/-! ### Renderings in a row -/

theorem restores_foldlM {f : γ → α → Rendering γ} (h : ∀ c a, Restores (f c a)) (l : List α)
    (c : γ) : Restores (l.foldlM f c) := by
  induction l generalizing c with
  | nil => exact restores_pure c
  | cons a l ih =>
    rw [List.foldlM_cons]
    exact restores_bind (h c a) fun c' => ih c'

theorem restores_mapM {f : α → Rendering β} (h : ∀ a, Restores (f a)) (l : List α) :
    Restores (l.mapM f) := by
  induction l with
  | nil => exact restores_pure []
  | cons a l ih =>
    rw [List.mapM_cons]
    exact restores_bind (h a) fun b => restores_bind ih fun bs => restores_pure (b :: bs)

theorem restores_forIn {f : α → PUnit → Rendering (ForInStep PUnit)} (h : ∀ a, Restores (f a ⟨⟩))
    (l : List α) : Restores (forIn l PUnit.unit f) := by
  induction l with
  | nil => exact restores_pure PUnit.unit
  | cons a l ih =>
    rw [List.forIn_cons]
    refine restores_bind (h a) fun step => ?_
    cases step with
    | done b => exact restores_pure b
    | yield b => exact ih

end Rendering

end TagTemplate
