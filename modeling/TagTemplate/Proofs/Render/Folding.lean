import Mathlib.Algebra.GroupWithZero.Nat
import Mathlib.Algebra.Order.BigOperators.Group.List
import Mathlib.Algebra.Order.Group.Nat
import TagTemplate.Proofs.FileStore
import TagTemplate.Proofs.Render.Counterpart
import TagTemplate.Proofs.Template.Reading

/-!
# Folding is transparent

A document that is built with folding and the one that is built without render to the same, with
included templates read in the same way as the document itself.

- `exists_included`: what the files hold is alike with and without folding;
- `renderWithin_alike`: documents that are alike come to the same result;
- `RendersTo`: the result of a document, whatever depth it takes;
- `agree_build`: **the same error, or templates that render to the same result**.
-/

namespace TagTemplate

open Rendering

/-! ## Included templates -/

/-- The number of elements that stand in a source. -/
def elementCount (source : String) : Nat :=
  match Template.readSource source.toList "" false with
  | .ok t => t.tree.nodes.length
  | .error _ => 0

theorem length_nodes_of_readSource {source : String} {sourcePath : String} {t : Template}
    (h : Template.readSource source.toList sourcePath false = .ok t) :
    t.tree.nodes.length = elementCount source := by
  rw [readSource_eq] at h
  obtain ⟨t', ht', rfl⟩ := map_eq_ok h
  rw [elementCount, ht']

/-- The number of elements that stand in a file. -/
def Entry.elementCount : Entry → Nat
  | .file content _ => ((String.fromUTF8? content).map TagTemplate.elementCount).getD 0
  | .directory _ => 0

/-- No more elements stand in a file than in all files together. -/
theorem elementCount_le_of_readNamed {files : FileStore} {path text : String}
    (h : files.readNamed path = .ok text) :
    elementCount text ≤ (files.entries.values.map Entry.elementCount).sum := by
  obtain ⟨content, time, hmem, htext⟩ := FileStore.exists_entry_of_readNamed h
  have hcount : elementCount text = (Entry.file content time).elementCount := by
    rw [Entry.elementCount, htext]
    rfl
  rw [hcount]
  exact List.single_le_sum (fun _ _ => Nat.zero_le _) _ (List.mem_map_of_mem hmem)

/-- What the files hold is alike with and without folding. -/
theorem exists_included (files : FileStore) : ∃ depth, Included files false true depth 0 := by
  refine ⟨(files.entries.values.map Entry.elementCount).sum, fun path => ?_⟩
  unfold readTemplate
  cases hread : files.readNamed path with
  | error e => exact .error e
  | ok text =>
    refine Agree.mapError ?_ _
    refine (agree_readSource text.toList path).swap.imp fun plain folded hplain _ hfolds => ?_
    refine hfolds.alike ?_
    rw [length_nodes_of_readSource hplain]
    exact elementCount_le_of_readNamed hread

/-! ## Whole documents -/

/-- **Documents that are alike come to the same result**, unless the first one goes too deep. The
second one goes deeper by what may be inert on its side. -/
theorem renderWithin_alike {env : Environment} {files : FileStore} {fold₁ fold₂ : Bool}
    {depth₁ depth₂ : Nat} {t₁ t₂ : Template} (hincluded : Included files fold₁ fold₂ depth₁ depth₂)
    (ht : Template.Alike depth₁ depth₂ t₁ t₂) (scope : Scope) {deep₁ deep₂ : Nat}
    (hdeep : deep₁ + depth₂ ≤ deep₂) :
    (renderWithin deep₁ (env.folding fold₁) scope files t₁).1 = .error tooDeep ∨
      renderWithin deep₁ (env.folding fold₁) scope files t₁ =
        renderWithin deep₂ (env.folding fold₂) scope files t₂ := by
  have hpaired : Paired files depth₁ depth₂ (renderNode (env.folding fold₁) deep₁)
      (renderNode (env.folding fold₂) deep₂) := paired_renderNode hincluded hdeep
  have hmatches := matches_renderTemplate hpaired ht _ _
    (Pairing.beside_start scope rfl rfl trivial)
  rw [renderWithin_eq, renderWithin_eq]
  generalize (renderTemplate (renderNode (env.folding fold₁) deep₁) t₁).outcome _ = p at hmatches ⊢
  generalize (renderTemplate (renderNode (env.folding fold₂) deep₂) t₂).outcome _ = q at hmatches ⊢
  obtain ⟨a, s₁⟩ := p
  obtain ⟨b, s₂⟩ := q
  rcases hmatches with ⟨_, rfl, hfails⟩ | ⟨hcorresponds, hs⟩
  · left
    dsimp only at hfails ⊢
    rw [hfails]
    rfl
  · right
    have hresult : a = b := hcorresponds.eq
    replace hs : Pairing.Beside _ s₁ s₂ := hs
    dsimp only
    rw [hresult, hs.finish_eq, hs.files_eq fun _ _ => Iff.rfl]

/-! ## Results -/

/-- What the document comes to, however deeply elements may be nested from some depth on. -/
def RendersTo (env : Environment) (scope : Scope) (files : FileStore) (t : Template)
    (result : Except Error String) : Prop :=
  ∃ depth, ∀ deeper, depth ≤ deeper → (renderWithin deeper env scope files t).1 = result

theorem RendersTo.unique {env : Environment} {scope : Scope} {files : FileStore} {t : Template}
    {result result' : Except Error String} (h : RendersTo env scope files t result)
    (h' : RendersTo env scope files t result') : result = result' := by
  obtain ⟨depth, hdepth⟩ := h
  obtain ⟨depth', hdepth'⟩ := h'
  rw [← hdepth (max depth depth') (Nat.le_max_left ..), hdepth' _ (Nat.le_max_right ..)]

/-- **A template and the folded one render to the same result.** At each depth the folded one gives
what the other one gives, unless that one goes too deep. -/
theorem Template.FoldsTo.rendersTo {plain folded : Template} (h : plain.FoldsTo folded)
    (env : Environment) (scope : Scope) (files : FileStore) :
    (∃ result, RendersTo (env.folding false) scope files plain result ∧
      RendersTo (env.folding true) scope files folded result) ∧
    ∀ depth, (renderWithin depth (env.folding false) scope files plain).1 = .error tooDeep ∨
      renderWithin depth (env.folding false) scope files plain =
        renderWithin depth (env.folding true) scope files folded := by
  obtain ⟨depth, hincluded⟩ := exists_included files
  have hdepth := Nat.le_max_left depth plain.tree.nodes.length
  have halike := h.alike (Nat.le_max_right depth plain.tree.nodes.length)
  generalize max depth plain.tree.nodes.length = extra at hdepth halike
  replace hincluded := hincluded.mono hdepth (Nat.le_refl 0)
  have hforth : ∀ a b, a ≤ b →
      (renderWithin a (env.folding false) scope files plain).1 = .error tooDeep ∨
      renderWithin a (env.folding false) scope files plain =
        renderWithin b (env.folding true) scope files folded :=
    fun a b hab => renderWithin_alike hincluded halike scope hab
  have hback : ∀ a b, a + extra ≤ b →
      (renderWithin a (env.folding true) scope files folded).1 = .error tooDeep ∨
      renderWithin a (env.folding true) scope files folded =
        renderWithin b (env.folding false) scope files plain :=
    fun a b hab => renderWithin_alike hincluded.symm halike.symm scope hab
  refine ⟨?_, fun depth => hforth depth depth (Nat.le_refl _)⟩
  -- if one depth suffices for the plain template, both settle from there on; else neither ever does
  by_cases hends : ∃ a, (renderWithin a (env.folding false) scope files plain).1 ≠ .error tooDeep
  · obtain ⟨a, ha⟩ := hends
    have hfolded : ∀ b, a ≤ b → renderWithin a (env.folding false) scope files plain =
        renderWithin b (env.folding true) scope files folded :=
      fun b hab => (hforth a b hab).resolve_left ha
    refine ⟨_, ⟨a + extra, fun b hab => ?_⟩,
      ⟨a, fun b hab => (congrArg Prod.fst (hfolded b hab)).symm⟩⟩
    have hsame := hfolded a (Nat.le_refl a)
    rw [hsame] at ha ⊢
    exact (congrArg Prod.fst ((hback a b hab).resolve_left ha)).symm
  · have hplain : ∀ a, (renderWithin a (env.folding false) scope files plain).1 = .error tooDeep :=
      fun a => Classical.not_not.1 fun ha => hends ⟨a, ha⟩
    refine ⟨.error tooDeep, ⟨0, fun b _ => hplain b⟩, ⟨0, fun b _ => ?_⟩⟩
    rcases hback b (b + extra) (Nat.le_refl _) with hdeep | hsame
    · exact hdeep
    · rw [hsame]
      exact hplain _

/-- **Folding is transparent**: a document built without folding and with it has the same error, or
comes to templates that render to the same result in every environment without a cache. At each
depth the folded one gives what the other one gives, unless that one goes too deep. -/
theorem agree_build (source : List Char) (events : List BuildEvent) (sourcePath : String)
    (line : Nat) :
    Agree (fun plain folded => ∀ (env : Environment) (scope : Scope) (files : FileStore),
        (∃ result, RendersTo (env.folding false) scope files plain result ∧
          RendersTo (env.folding true) scope files folded result) ∧
        ∀ depth, (renderWithin depth (env.folding false) scope files plain).1 = .error tooDeep ∨
          renderWithin depth (env.folding false) scope files plain =
            renderWithin depth (env.folding true) scope files folded)
      (Template.build source false events sourcePath line)
      (Template.build source true events sourcePath line) := by
  have hbuilt := agree_foldsTo source events sourcePath line
  exact hbuilt.swap.imp fun plain folded _ _ hfolds => hfolds.rendersTo

/-- An element without data is built as an element, or as its text. -/
example :
    let events := [.opening "p" [("class", "a<b")] 1, .text "hi" 1, .closing 0 1]
    (Template.build [] false events "" 1).map (·.tree.root) = .ok (some (.node 0)) ∧
      (Template.build [] true events "" 1).map (·.tree.root) =
        .ok (some (.text "<p class=\"a&lt;b\">hi</p>")) :=
  ⟨rfl, rfl⟩

end TagTemplate
