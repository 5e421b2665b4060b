import TagTemplate.Proofs.Render.Folding
import TagTemplate.Proofs.Template.Reproduction

/-!
# Documents without data are reproduced

A document in which nothing depends on data is rendered to its own source, whether it was folded or
not.

- `settles_renderTemplate`: an inert root renders to the text it comes to;
- `renderWithin_of_foldsToText`: a template that folds to a text renders to it;
- `StaticDocument.reproduced`: **the source is what the folded template consists of, and what the
  template is rendered to**.
-/

namespace TagTemplate

open Rendering

variable {env : Environment} {t : Template}

/-- An inert root renders to the text it comes to, unless elements are nested more deeply than the
renderer goes. -/
theorem settles_renderTemplate {c : Child} (hroot : t.tree.root = some c) {k : Nat} {text : String}
    (h : Inert t.tree.nodes k [c] text) (depth : Nat) (s : RenderState) :
    Settles (renderTemplate (renderNode env depth) t) s text (depth < k) := by
  unfold renderTemplate
  rw [hroot]
  cases h with
  | text hrest =>
    cases hrest
    rw [String.append_empty]
    exact .inl rfl
  | node hnode hinert hin hrest =>
    cases hrest
    rw [String.append_empty]
    -- an element takes a unit of depth, a text takes none
    cases depth with
    | zero => exact .inr ⟨Nat.succ_pos _, rfl⟩
    | succ depth =>
      have hinside : ∀ s, Settles (renderChildren (renderNode env depth) t _) s _ (depth < _) :=
        outcome_inert hin depth
      rcases settles_renderNode hnode hinert hinside with hok | hdeep
      · exact .inl hok
      · exact .inr ⟨Nat.succ_lt_succ hdeep.1, hdeep.2⟩

/-- Nothing is added to the output where no slot and no doctype was met. -/
theorem finish_start (scope : Scope) (files : FileStore) (output : String) :
    (RenderState.start scope files).finish output = output := by
  have hslots : (Slots.empty.reconcile output).1 = output := by
    rw [Slots.reconcile, Slots.reconcileAll]
    exact String.ofList_toList
  exact hslots

/-- A template that folds to a text renders to it at every depth that its elements fit in, and
leaves the files as they are. -/
theorem renderWithin_of_foldsToText {content : String} (h : t.FoldsToText content) {depth : Nat}
    (hdepth : t.tree.nodes.length ≤ depth) (scope : Scope) (files : FileStore) :
    renderWithin depth env scope files t = (.ok content, files) := by
  obtain ⟨forest, c, hroot, hreads, hfold⟩ := h
  have hinert : Inert t.tree.nodes t.tree.nodes.length [c] forest.fold.ownText :=
    hreads.inert (by rw [hfold]; rfl) hreads.height_le
  have htext : forest.fold.ownText = content := by
    rw [hfold]
    exact String.append_empty
  rcases settles_renderTemplate hroot (htext ▸ hinert) depth (.start scope files) with
    hok | ⟨hshallow, -⟩
  · rw [renderWithin_eq, hok]
    exact congrArg (fun output => (Except.ok output, files)) (finish_start scope files content)
  · exact absurd hdepth (Nat.not_le.2 hshallow)

namespace StaticDocument

/-- **A document without data is reproduced.** Read with folding, it is its own source as one text,
without an element left. Read with folding or without, it is rendered to its source, with any data
and at every depth that its elements fit in, and no file is changed. -/
theorem reproduced (d : StaticDocument) (sourcePath : String) :
    (∃ t, Template.read (String.ofList d.source) sourcePath true = .ok t ∧
      t.tree = ⟨[], some (.text (String.ofList d.source))⟩) ∧
    ∀ fold, ∃ t, Template.read (String.ofList d.source) sourcePath fold = .ok t ∧
      ∀ (env : Environment) (scope : Scope) (files : FileStore) (depth : Nat),
        t.tree.nodes.length ≤ depth →
          renderWithin depth env scope files t = (.ok (String.ofList d.source), files) := by
  have hread : ∀ {fold t}, Template.readSource d.source sourcePath fold = .ok t →
      Template.read (String.ofList d.source) sourcePath fold = .ok t := by
    intro fold t h
    rw [Template.read, String.toList_ofList, h]
    rfl
  obtain ⟨t₁, hfolded, htree⟩ := d.exists_folded sourcePath
  obtain ⟨t₂, hunfolded, htext⟩ := d.exists_unfolded sourcePath
  refine ⟨⟨t₁, hread hfolded, htree⟩, fun fold => ?_⟩
  cases fold with
  | true =>
    refine ⟨t₁, hread hfolded, fun env scope files depth hdepth => ?_⟩
    refine renderWithin_of_foldsToText ?_ hdepth scope files
    refine ⟨.text (String.ofList d.source) .nil, .text (String.ofList d.source), ?_, ?_, rfl⟩
    · rw [htree]
    · rw [htree]
      exact .text .nil
  | false =>
    exact ⟨t₂, hread hunfolded, fun env scope files depth hdepth =>
      renderWithin_of_foldsToText htext hdepth scope files⟩

/-- An element with an attribute, a reference and an element that closes itself. -/
def paragraph : StaticDocument where
  root := ⟨"p", [("title", "a < b")], false⟩
  inside := .text "x" (.reference "amp" (.element ⟨"br", [], true⟩ .nil .nil))
  wellFormed := by
    refine ⟨⟨by decide, by decide, by decide⟩, nofun, ⟨by simp, by simp, ?_⟩, trivial⟩
    exact ⟨⟨by decide, by decide, by decide⟩, fun _ => rfl, trivial, trivial⟩
  plain :=
    ⟨⟨by decide, by decide, by decide⟩, ⟨⟨by decide, by decide, by decide⟩, trivial, trivial⟩,
      trivial⟩
  undeclared := by decide

theorem reproduced_paragraph :
    (∃ t, Template.read "<p title=\"a &lt; b\">x&amp;<br/></p>" "page.xml" true = .ok t ∧
      t.tree = ⟨[], some (.text "<p title=\"a &lt; b\">x&amp;<br/></p>")⟩) ∧
    ∀ fold, ∃ t, Template.read "<p title=\"a &lt; b\">x&amp;<br/></p>" "page.xml" fold = .ok t ∧
      ∀ (env : Environment) (scope : Scope) (files : FileStore) (depth : Nat),
        t.tree.nodes.length ≤ depth →
          renderWithin depth env scope files t =
            (.ok "<p title=\"a &lt; b\">x&amp;<br/></p>", files) := by
  have hsource : String.ofList paragraph.source = "<p title=\"a &lt; b\">x&amp;<br/></p>" := by
    decide
  have hall := reproduced paragraph "page.xml"
  rw [hsource] at hall
  exact hall

end StaticDocument

end TagTemplate
