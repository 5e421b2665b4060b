import TagTemplate.Proofs.Template.Lines
import TagTemplate.Proofs.Template.Respelling

/-!
# What the places of events have a part in

Events say where they stand in a source. A builder looks there only for two things: the line of an
element or of an error, and whether a tag that closes an element ends in a slash.

- `Template.ofEvents`: the template that is built from the events of a source;
- `ofEvents_congr`: **nothing but lines and slashes is looked up**;
- `Template.shape`: a template without what was looked up for it;
- `alike_ofEvents`: **wherever the events stand, the template has the same shape**, or errors are
  the same but for lines.
-/

namespace TagTemplate

open Markup Text

/-- The template that is built from the events of a source, each taken in on its own line. -/
def Template.ofEvents (source : List Char) (read : List Located × Option Failure)
    (sourcePath : String) (fold : Bool) : Except Error Template :=
  (read.1.foldlM (fun (b : Builder) e => b.add e (lineOf source e.first))
    (.start source fold)).bind fun b =>
      match read.2 with
      | some failure => .error (b.error failure.fault.message (lineOf source failure.position))
      | none => b.finish sourcePath (lineOf source (byteLength source))

theorem readSource_eq_ofEvents (source : List Char) (sourcePath : String) (fold : Bool) :
    Template.readSource source sourcePath fold =
      Template.ofEvents source (events source) sourcePath fold :=
  readSource_eq_foldlM source sourcePath fold

/-! ## Places where the same is looked up -/

/-- The event closes an element. -/
def Markup.Event.closes : Event → Bool
  | .empty _ => true
  | .stop => true
  | _ => false

/-- The same event in two sources, at places where the same is looked up. -/
structure Markup.Located.SamePlace (source source' : List Char) (e e' : Located) : Prop where
  event : e'.event = e.event
  line : lineOf source' e'.first = lineOf source e.first
  slash : e.event.closes = true →
    Builder.endsInSlash source' e'.last = Builder.endsInSlash source e.last

namespace Builder

/-- The builder of a source, and the same for another source. -/
structure Elsewhere (source source' : List Char) (b b' : Builder) : Prop where
  source_eq : b.source = source
  eq : b' = { b with source := source' }

variable {source source' : List Char} {b b' : Builder}

theorem elsewhere_openElement (h : Elsewhere source source' b b') (tag : String)
    (attributes : OrderedMap String) (line : Nat) :
    Corresponds Eq (Elsewhere source source') (settled (b.openElement tag attributes line))
      (settled (b'.openElement tag attributes line)) := by
  obtain ⟨rfl, rfl⟩ := h
  have hinformed : ({ b with source := source' } : Builder).informed attributes =
      ({ (b.informed attributes).1 with source := source' }, (b.informed attributes).2) := by
    unfold informed
    show (if b.nsPrefix?.isNone then _ else _) = _
    split <;> rfl
  have hsource : (b.informed attributes).1.source = b.source :=
    (informed_same b attributes).2.2.2.2.2
  rw [openElement_eq, openElement_eq, hinformed]
  show Corresponds _ _ _ (settled (if b.opened.isEmpty ∧ b.root.isSome then _ else _))
  split
  · exact .error rfl
  · dsimp only
    rw [show ({ (b.informed attributes).1 with source := source' } : Builder).nsPrefix =
      (b.informed attributes).1.nsPrefix from rfl]
    split
    · exact .error rfl
    · exact .ok ⟨hsource, rfl⟩

theorem elsewhere_addText (h : Elsewhere source source' b b') (content : String) (line : Nat) :
    Corresponds Eq (Elsewhere source source') (settled (b.addText content line))
      (settled (b'.addText content line)) := by
  obtain ⟨rfl, rfl⟩ := h
  obtain ⟨_, _, _, _, _, _, opened, _⟩ := b
  cases opened with
  | nil =>
    show Corresponds _ _ (settled (if _ then _ else _)) (settled (if _ then _ else _))
    split
    · exact .ok ⟨rfl, rfl⟩
    · exact .error rfl
  | cons id ids => exact .ok ⟨rfl, rfl⟩

/-- A closing tag looks at what stands in front of its end. -/
theorem elsewhere_closeElement (h : Elsewhere source source' b b') {offset offset' : Nat}
    (hslash : endsInSlash source' offset' = endsInSlash source offset) (line : Nat) :
    Corresponds Eq (Elsewhere source source') (settled (b.closeElement offset line))
      (settled (b'.closeElement offset' line)) := by
  obtain ⟨rfl, rfl⟩ := h
  obtain ⟨_, _, _, _, nodes, _, opened, _⟩ := b
  unfold closeElement
  dsimp only
  rw [hslash]
  cases opened with
  | nil => exact .error rfl
  | cons id opened =>
    dsimp only
    cases nodes[id]? with
    | none => exact .ok ⟨rfl, rfl⟩
    | some node =>
      dsimp only
      split
      · unfold foldNode
        refine .ok ⟨?_, ?_⟩
        · split <;> rfl
        · dsimp only
          split <;> rfl
      · exact .ok ⟨rfl, rfl⟩

theorem elsewhere_openTag (h : Elsewhere source source' b b') (tag : Tag) (line : Nat) :
    Corresponds Eq (Elsewhere source source') (b.openTag tag line) (b'.openTag tag line) := by
  unfold openTag
  cases tag.attributes with
  | error fault =>
    obtain ⟨-, rfl⟩ := h
    exact .error rfl
  | ok attributes => exact elsewhere_openElement h _ _ line

/-- An event is taken in at both places. -/
theorem elsewhere_add (h : Elsewhere source source' b b') {e e' : Located}
    (hplace : e.SamePlace source source' e') :
    Corresponds Eq (Elsewhere source source') (b.add e (lineOf source e.first))
      (b'.add e' (lineOf source' e'.first)) := by
  have hslash := hplace.slash
  rw [hplace.line]
  unfold add
  rw [hplace.event]
  cases hevent : e.event with
  | start tag => exact elsewhere_openTag h tag _
  | empty tag =>
    rw [hevent] at hslash
    exact (elsewhere_openTag h tag _).bind fun _ _ hopened =>
      elsewhere_closeElement hopened (hslash rfl) _
  | stop =>
    rw [hevent] at hslash
    exact elsewhere_closeElement h (hslash rfl) _
  | text content => exact elsewhere_addText h _ _
  | literal content => exact elsewhere_addText h _ _
  | reference name => exact elsewhere_addText h _ _
  | aside => exact .ok h

end Builder

/-- **Nothing but lines and slashes is looked up** in a source when a template is built from
events. -/
theorem ofEvents_congr {source source' : List Char} {es es' : List Located}
    {failure failure' : Option Failure}
    (hplaces : List.Forall₂ (Located.SamePlace source source') es es')
    (hfailure : failure.map (fun f => (f.fault, lineOf source f.position)) =
      failure'.map fun f => (f.fault, lineOf source' f.position))
    (hend : lineOf source (byteLength source) = lineOf source' (byteLength source'))
    (sourcePath : String) (fold : Bool) :
    Template.ofEvents source (es, failure) sourcePath fold =
      Template.ofEvents source' (es', failure') sourcePath fold := by
  have hstart : Builder.Elsewhere source source' (.start source fold) (.start source' fold) :=
    ⟨rfl, rfl⟩
  have hbuilt : Corresponds Eq (Builder.Elsewhere source source')
      (es.foldlM (fun (b : Builder) e => b.add e (lineOf source e.first)) (.start source fold))
      (es'.foldlM (fun (b : Builder) e => b.add e (lineOf source' e.first))
        (.start source' fold)) := by
    refine .foldlM (fun b b' e e' hb hplace => ?_) hplaces hstart
    exact Builder.elsewhere_add hb hplace
  refine Corresponds.eq (hbuilt.bind fun b b' hb => ?_)
  obtain ⟨-, rfl⟩ := hb
  dsimp only
  cases failure with
  | none =>
    cases failure' with
    | none =>
      dsimp only
      rw [hend]
      exact .refl (fun _ => rfl) _
    | some _ => cases hfailure
  | some f =>
    cases failure' with
    | none => cases hfailure
    | some f' =>
      obtain ⟨hfault, hline⟩ := Prod.mk.inj (Option.some.inj hfailure)
      dsimp only
      rw [hfault, hline]
      exact .error rfl

/-! ## Shapes -/

/-- The child, without its text if folding may have put it there. -/
def Child.shape (fold : Bool) : Child → Child
  | .text content => .text (if fold then "" else content)
  | .node id => .node id

/-- The element without its line, and without what depends on its tag ending in a slash. -/
def Node.shape (fold : Bool) (n : Node) : Node :=
  { n with children := n.children.map (Child.shape fold), selfClosing := false, line := 0 }

/-- The template without what was looked up in its source. -/
def Template.shape (fold : Bool) (t : Template) : Template :=
  { t with tree := ⟨t.tree.nodes.map (Node.shape fold), t.tree.root.map (Child.shape fold)⟩ }

/-- Errors of a document that are the same but for lines. -/
inductive Error.SameButLines : Error → Error → Prop
  | malformed (problem : String) (line line' : Nat) (file : String) :
    SameButLines (.malformed problem line file) (.malformed problem line' file)
  /-- The line of the innermost open element is named behind the problem. -/
  | malformedIn (problem tag : String) (opened reopened line line' : Nat) (file : String) :
    SameButLines (.malformed s!"{problem}. Last element: {tag}({opened})" line file)
      (.malformed s!"{problem}. Last element: {tag}({reopened})" line' file)
  | requiredAttribute (tag name : String) (line line' : Nat) (file : String) :
    SameButLines (.requiredAttribute tag name line file) (.requiredAttribute tag name line' file)

theorem Error.SameButLines.withFile {e e' : Error} (h : e.SameButLines e') (path : String) :
    (e.withFile path).SameButLines (e'.withFile path) := by
  cases h with
  | malformed =>
    rw [withFile_malformed, withFile_malformed]
    exact .malformed _ _ _ _
  | malformedIn =>
    rw [withFile_malformed, withFile_malformed]
    exact .malformedIn _ _ _ _ _ _ _
  | requiredAttribute =>
    rw [withFile_requiredAttribute, withFile_requiredAttribute]
    exact .requiredAttribute _ _ _ _ _

/-- With folding on, no text is left of a shape. -/
theorem shape_appendText (fold : Bool) (children : List Child) (content : String) :
    (appendText children content).map (Child.shape fold) =
      appendText (children.map (Child.shape fold)) (if fold then "" else content) := by
  unfold appendText
  rw [List.getLast?_map, ← List.map_dropLast]
  rcases hlast : children.getLast? with _ | ⟨id | before⟩
  · exact List.map_append
  · exact List.map_append
  · rw [List.map_append]
    cases fold <;> rfl

namespace Node

/-- What stands in an element has a part in folding it, but not how it is written. -/
theorem isFoldable_shape (fold : Bool) (n : Node) : (n.shape fold).isFoldable = n.isFoldable := by
  unfold isFoldable shape
  dsimp only
  rw [List.all_map]
  congr 2
  funext child
  cases child <;> rfl

end Node

namespace Builder

/-- Builders of the same shape: what is built is the same but for what was looked up. -/
structure Alike (fold : Bool) (b b' : Builder) : Prop where
  fold_eq : b.fold = fold
  fold_eq' : b'.fold = fold
  nsPrefix? : b'.nsPrefix? = b.nsPrefix?
  transSource : b'.transSource = b.transSource
  opened : b'.opened = b.opened
  pending : b'.pending = b.pending
  nodes : b'.nodes.map (Node.shape fold) = b.nodes.map (Node.shape fold)
  root : b'.root.map (Child.shape fold) = b.root.map (Child.shape fold)

variable {fold : Bool} {b b' : Builder}

namespace Alike

theorem length_eq (h : Alike fold b b') : b'.nodes.length = b.nodes.length := by
  simpa using congrArg List.length h.nodes

theorem getElem?_eq (h : Alike fold b b') (id : Nat) :
    b'.nodes[id]?.map (Node.shape fold) = b.nodes[id]?.map (Node.shape fold) := by
  rw [← List.getElem?_map, ← List.getElem?_map, h.nodes]

theorem nsPrefix_eq (h : Alike fold b b') : b'.nsPrefix = b.nsPrefix :=
  congrArg (Option.getD · defaultPrefix) h.nsPrefix?

theorem root_isSome (h : Alike fold b b') : b'.root.isSome = b.root.isSome := by
  simpa using congrArg Option.isSome h.root

/-- The innermost open elements have the same tag. -/
theorem error (h : Alike fold b b') (problem : String) (line line' : Nat) :
    (b.error problem line).SameButLines (b'.error problem line') := by
  have hinner : b'.innermost?.map (Node.shape fold) = b.innermost?.map (Node.shape fold) := by
    unfold innermost?
    rw [h.opened]
    cases b.opened.head? with
    | none => rfl
    | some id => exact h.getElem?_eq id
  unfold Builder.error
  cases hb : b.innermost? with
  | none =>
    rw [hb, Option.map_none, Option.map_eq_none_iff] at hinner
    rw [hinner]
    exact .malformed _ _ _ _
  | some n =>
    rw [hb] at hinner
    obtain ⟨n', hn', hshape⟩ := Option.map_eq_some_iff.1 hinner
    have htag : n'.tag = n.tag := (congrArg Node.tag hshape :)
    rw [hn']
    dsimp only
    rw [htag]
    exact .malformedIn _ _ _ _ _ _ _

theorem informed (h : Alike fold b b') (attributes : OrderedMap String) :
    (b'.informed attributes).2 = (b.informed attributes).2 ∧
      Alike fold (b.informed attributes).1 (b'.informed attributes).1 := by
  unfold Builder.informed
  rw [h.nsPrefix?]
  split
  · exact ⟨rfl, { h with nsPrefix? := rfl, transSource := rfl }⟩
  · exact ⟨rfl, h⟩

theorem addNode (h : Alike fold b b') (tag : String) (attributes : OrderedMap String)
    (line line' : Nat) (directive : Option Directive) :
    Alike fold (b.addNode tag attributes line directive)
      (b'.addNode tag attributes line' directive) := by
  -- an element becomes the root where none is open
  have hroot : ∀ root root' : Option Child,
      root'.map (Child.shape fold) = root.map (Child.shape fold) →
      (if b.opened.isEmpty then some (.node b.nodes.length) else root').map (Child.shape fold) =
        (if b.opened.isEmpty then some (.node b.nodes.length) else root).map
          (Child.shape fold) := by
    intro root root' hroot
    split
    · rfl
    · exact hroot
  have hparent : ∀ (nodes : List Node) parent, (nodes.modify parent fun n =>
        { n with children := n.children ++ [.node b.nodes.length], selfClosing := false }).map
          (Node.shape fold) =
      (nodes.map (Node.shape fold)).modify parent fun n =>
        { n with children := n.children ++ [.node b.nodes.length], selfClosing := false } :=
    fun nodes parent => map_modify (fun n => by
      unfold Node.shape
      dsimp only
      rw [List.map_append]
      rfl) nodes parent
  unfold Builder.addNode
  rw [h.length_eq, h.opened, h.pending, h.nsPrefix_eq]
  refine ⟨h.fold_eq, h.fold_eq', h.nsPrefix?, h.transSource, rfl, rfl, ?_, hroot _ _ h.root⟩
  dsimp only
  rw [List.map_append, List.map_append]
  cases b.opened.head? with
  | none =>
    dsimp only
    rw [h.nodes]
    rfl
  | some parent =>
    dsimp only
    rw [hparent, hparent, h.nodes]
    rfl

theorem openElement (h : Alike fold b b') (tag : String) (attributes : OrderedMap String)
    (line line' : Nat) :
    Corresponds Error.SameButLines (Alike fold) (settled (b.openElement tag attributes line))
      (settled (b'.openElement tag attributes line')) := by
  obtain ⟨hattributes, hinformed⟩ := h.informed attributes
  rw [openElement_eq, openElement_eq, h.opened, h.root_isSome, hattributes, hinformed.nsPrefix_eq]
  split
  · exact .error (h.error _ _ _)
  · dsimp only
    split
    · exact .error (.requiredAttribute _ _ _ _ _)
    · exact .ok (hinformed.addNode _ _ _ _ _)

theorem addText (h : Alike fold b b') (content : String) (line line' : Nat) :
    Corresponds Error.SameButLines (Alike fold) (settled (b.addText content line))
      (settled (b'.addText content line')) := by
  unfold Builder.addText
  rw [h.opened]
  cases hopened : b.opened with
  | nil =>
    dsimp only
    split
    · exact .ok h
    · exact .error (h.error _ _ _)
  | cons id ids =>
    have hnodes : ∀ nodes : List Node, (nodes.modify id fun n =>
          { n with children := appendText n.children content, selfClosing := false }).map
            (Node.shape fold) =
        (nodes.map (Node.shape fold)).modify id fun n =>
          { n with
            children := appendText n.children (if fold then "" else content)
            selfClosing := false } :=
      fun nodes => map_modify (fun n => by
        unfold Node.shape
        dsimp only
        rw [shape_appendText]) nodes id
    refine .ok { h with opened := rfl, pending := ?_, nodes := ?_ }
    · exact congrArg (· ++ content) h.pending
    · dsimp only
      rw [hnodes, hnodes, h.nodes]

theorem leaving (h : Alike fold b b') (id : Nat) {node node' : Node}
    (hnode : node'.shape fold = node.shape fold) (opened : List Nat) :
    Alike fold (b.leaving id node opened) (b'.leaving id node' opened) := by
  refine { h with opened := rfl, nodes := ?_ }
  unfold Builder.leaving
  dsimp only
  rw [List.map_set, List.map_set, h.nodes, hnode]

/-- Where elements are folded, texts have no part in the shape. -/
theorem foldNode (h : Alike true b b') (id : Nat) {node node' : Node}
    (hnode : node'.shape true = node.shape true) :
    Alike true (b.foldNode id node) (b'.foldNode id node') := by
  have hparent : node'.parent = node.parent := (congrArg Node.parent hnode :)
  have htake : (b'.nodes.take id).map (Node.shape true) =
      (b.nodes.take id).map (Node.shape true) := by
    rw [List.map_take, List.map_take, h.nodes]
  have hnodes : ∀ (n : Node) parent (nodes : List Node), (updateChildren parent
        (fun children => appendText children.dropLast n.folded) nodes).map (Node.shape true) =
      (nodes.map (Node.shape true)).modify parent fun n =>
        { n with children := appendText n.children.dropLast "" } :=
    fun _ parent nodes => map_modify (fun m => by
      unfold Node.shape
      dsimp only
      rw [shape_appendText, List.map_dropLast]
      rfl) nodes parent
  unfold Builder.foldNode
  rw [hparent]
  cases node.parent with
  | none => exact { h with nodes := htake, root := rfl }
  | some parent =>
    refine { h with nodes := ?_ }
    dsimp only
    rw [hnodes, hnodes, htake]

theorem closeElement (h : Alike fold b b') (offset offset' line line' : Nat) :
    Corresponds Error.SameButLines (Alike fold) (settled (b.closeElement offset line))
      (settled (b'.closeElement offset' line')) := by
  cases hopened : b.opened with
  | nil =>
    unfold Builder.closeElement
    rw [h.opened, hopened]
    exact .error (h.error _ _ _)
  | cons id opened =>
    have hopened' : b'.opened = id :: opened := h.opened.trans hopened
    have hsame := h.getElem?_eq id
    cases hnode : b.nodes[id]? with
    | none =>
      rw [hnode, Option.map_none, Option.map_eq_none_iff] at hsame
      unfold Builder.closeElement
      rw [hopened, hopened']
      dsimp only
      rw [hnode, hsame]
      exact .ok { h with opened := rfl }
    | some node =>
      rw [hnode] at hsame
      obtain ⟨node', hnode', hshape⟩ := Option.map_eq_some_iff.1 hsame
      rw [closeElement_of_node hopened hnode, closeElement_of_node hopened' hnode']
      have hclosed : (node'.closed (endsInSlash b'.source offset')).shape fold =
          (node.closed (endsInSlash b.source offset)).shape fold := hshape
      generalize node.closed _ = ended at hclosed ⊢
      generalize node'.closed _ = ended' at hclosed ⊢
      -- whether an element folds does not depend on its lines
      have hfoldable : ended'.isFoldable = ended.isFoldable := by
        rw [← ended'.isFoldable_shape fold, hclosed, ended.isFoldable_shape]
      have hleft := h.leaving id hclosed opened
      dsimp only
      rw [h.fold_eq, h.fold_eq', hfoldable]
      split
      · rename_i hfolds
        obtain rfl : fold = true := (Bool.and_eq_true_iff.1 hfolds).1
        exact .ok (hleft.foldNode id hclosed)
      · exact .ok hleft

/-- An event is taken in, wherever it stands. -/
theorem add (h : Alike fold b b') {e e' : Located} (hevent : e'.event = e.event)
    (line line' : Nat) :
    Corresponds Error.SameButLines (Alike fold) (b.add e line) (b'.add e' line') := by
  have hopen : ∀ tag : Tag, Corresponds Error.SameButLines (Alike fold) (b.openTag tag line)
      (b'.openTag tag line') := by
    intro tag
    unfold openTag
    cases tag.attributes with
    | error fault => exact .error (h.error _ _ _)
    | ok attributes => exact h.openElement _ _ _ _
  unfold Builder.add
  rw [hevent]
  cases e.event with
  | start tag => exact hopen tag
  | empty tag => exact (hopen tag).bind fun _ _ hopened => hopened.closeElement _ _ _ _
  | stop => exact h.closeElement _ _ _ _
  | text content => exact h.addText _ _ _
  | literal content => exact h.addText _ _ _
  | reference name => exact h.addText _ _ _
  | aside => exact .ok h

theorem finish (h : Alike fold b b') (sourcePath : String) (line line' : Nat) :
    Corresponds Error.SameButLines (fun t t' => t'.shape fold = t.shape fold)
      (b.finish sourcePath line) (b'.finish sourcePath line') := by
  have hroot : b'.root.isNone = b.root.isNone := by
    rw [← Option.not_isSome, ← Option.not_isSome, h.root_isSome]
  unfold Builder.finish
  rw [h.opened, hroot]
  split
  · exact .error (h.error _ _ _)
  · split
    · exact .error (h.error _ _ _)
    · refine .ok ?_
      unfold Template.shape
      dsimp only
      rw [h.nsPrefix_eq, h.transSource, h.nodes, h.root]

end Alike

end Builder

/-- **Wherever the events of a template stand, it has the same shape**, or the errors are the same
but for lines. -/
theorem alike_ofEvents {source source' : List Char} {es es' : List Located}
    {failure failure' : Option Failure}
    (hevents : List.Forall₂ (fun e e' => e'.event = e.event) es es')
    (hfailure : failure'.map Failure.fault = failure.map Failure.fault) (sourcePath : String)
    (fold : Bool) :
    Corresponds Error.SameButLines (fun t t' => t'.shape fold = t.shape fold)
      (Template.ofEvents source (es, failure) sourcePath fold)
      (Template.ofEvents source' (es', failure') sourcePath fold) := by
  have hstart : Builder.Alike fold (.start source fold) (.start source' fold) :=
    ⟨rfl, rfl, rfl, rfl, rfl, rfl, rfl, rfl⟩
  refine (Corresponds.foldlM (fun _ _ _ _ hb hevent => hb.add hevent _ _) hevents hstart).bind
    fun b b' hb => ?_
  dsimp only
  cases failure with
  | none =>
    obtain rfl := Option.map_eq_none_iff.1 hfailure
    exact hb.finish _ _ _
  | some f =>
    obtain ⟨f', rfl, hfault⟩ := Option.map_eq_some_iff.1 hfailure
    dsimp only
    rw [hfault]
    exact .error (hb.error _ _ _)

end TagTemplate
