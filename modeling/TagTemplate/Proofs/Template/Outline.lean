import TagTemplate.Proofs.OrderedMap
import TagTemplate.Proofs.Template.Arena

/-!
# What a builder has built

An `Outline` is the state of a document that is being built, with forests in place of the list of
elements. A builder `Draws` an outline, and each of its operations does to the outline what it is
meant to do: this is all that is known of the list of elements further on.

- `Builder.Draws`: the list of elements holds the outline, numbered in document order;
- `draws_addNode`, `draws_addText`, `draws_closeElement`: the operations that succeed;
- `error_eq`: errors name the innermost open element of the outline.
-/

namespace TagTemplate

/-- A document that is being built: nothing yet, open elements, or a root that is closed. -/
inductive Outline where
  | empty
  | opened (frame : OpenElement) (outer : List OpenElement)
  | closed (root : Forest)

/-- The element is not empty. -/
def OpenElement.filled (f : OpenElement) : OpenElement :=
  { f with head := { f.head with selfClosing := false } }

/-- The element once it is closed: it closes itself if it is empty and its tag says so. -/
def OpenElement.ended (f : OpenElement) (slash : Bool) : Head :=
  { f.head with selfClosing := f.head.selfClosing && f.done.isNil && slash }

/-- An element put behind, with or without folding. -/
def Forest.put (f : Forest) (fold : Bool) (head : Head) (kids : Forest) : Forest :=
  if fold then f.snocFolded head kids else f.snoc head kids

namespace Outline

/-- Opens an element. -/
def openWith (head : Head) : Outline → Outline
  | opened frame outer => opened ⟨head, .nil⟩ (frame.filled :: outer)
  | _ => opened ⟨head, .nil⟩ []

/-- Puts text into the innermost open element. -/
def addText (content : String) : Outline → Outline
  | opened frame outer => opened { frame.filled with done := frame.done.appendText content } outer
  | z => z

/-- Goes back to the elements around, and changes what is in the innermost of them. -/
def leave (change : Forest → Forest) : List OpenElement → Outline
  | [] => closed (change .nil)
  | frame :: outer => opened { frame with done := change frame.done } outer

/-- Closes the innermost open element; `slash` says that its tag ends in a slash. -/
def close (fold slash : Bool) : Outline → Outline
  | opened frame outer => leave (fun done => done.put fold (frame.ended slash) frame.done) outer
  | z => z

/-- The innermost open element. -/
def innermost? : Outline → Option Head
  | opened frame _ => some frame.head
  | _ => none

/-- The root is closed. -/
def isClosed : Outline → Bool
  | closed _ => true
  | _ => false

end Outline

namespace Builder

/-- The builder's elements hold the outline. -/
def Draws (b : Builder) : Outline → Prop
  | .empty => b.opened = [] ∧ b.nodes = [] ∧ b.root = none
  | .opened frame outer =>
    Spine b.nodes [] b.opened (frame :: outer) b.nodes.length ∧ b.root = some (.node 0)
  | .closed root =>
    b.opened = [] ∧ ∃ c, b.root = some c ∧ Reads b.nodes none 0 [c] root b.nodes.length

variable {b : Builder} {z : Outline}

theorem draws_start (source : List Char) (fold : Bool) : (start source fold).Draws .empty :=
  ⟨rfl, rfl, rfl⟩

theorem opened_isEmpty_of_draws (h : b.Draws z) : b.opened.isEmpty = z.innermost?.isNone := by
  cases z with
  | empty => rw [h.1]; rfl
  | opened frame outer =>
    obtain ⟨hspine, -⟩ := h
    generalize b.opened = ids at hspine
    cases hspine
    rfl
  | closed root => rw [h.1]; rfl

theorem root_isSome_of_draws (h : b.Draws z) (hopened : b.opened = []) :
    b.root.isSome = z.isClosed := by
  cases z with
  | empty => rw [h.2.2]; rfl
  | opened frame outer =>
    obtain ⟨hspine, -⟩ := h
    rw [hopened] at hspine
    cases hspine
  | closed root =>
    obtain ⟨-, c, hroot, -⟩ := h
    rw [hroot]
    rfl

theorem innermost?_of_draws (h : b.Draws z) :
    b.innermost?.map (fun n => (n.tag, n.line)) =
      z.innermost?.map fun head => (head.tag, head.line) := by
  cases z with
  | empty => rw [innermost?, h.1]; rfl
  | closed root => rw [innermost?, h.1]; rfl
  | opened frame outer =>
    obtain ⟨hspine, -⟩ := h
    generalize hopened : b.opened = ids at hspine
    cases hspine with
    | cons _ hnode _ =>
      rw [innermost?, hopened, List.head?_cons, Option.bind_some, hnode]
      rfl

/-- Builders of outlines with the same innermost element raise the same errors. -/
theorem error_eq {b' : Builder} {z' : Outline} (h : b.Draws z) (h' : b'.Draws z')
    (hsame : z'.innermost? = z.innermost?) (problem : String) (line : Nat) :
    b'.error problem line = b.error problem line := by
  have hinner := innermost?_of_draws h
  have hinner' := innermost?_of_draws h'
  rw [hsame, ← hinner] at hinner'
  unfold error
  cases hb : b.innermost? <;> cases hb' : b'.innermost? <;> rw [hb, hb'] at hinner'
  · cases hinner'
  · cases hinner'
  · rename_i n n'
    have htag : n'.tag = n.tag := congrArg Prod.fst (Option.some.inj hinner')
    have hline : n'.line = n.line := congrArg Prod.snd (Option.some.inj hinner')
    dsimp only
    rw [htag, hline]

/-! ## Opening tags -/

theorem distinct_capture (b : Builder) {attributes : OrderedMap String} (h : attributes.Distinct) :
    (b.capture attributes).2.Distinct := by
  unfold capture
  dsimp only
  split
  · exact OrderedMap.distinct_erase (OrderedMap.distinct_erase h _) _
  · exact OrderedMap.distinct_erase h _

/-- The builder that knows the namespace, and the attributes that are kept of a tag: the first tag
of all says what the namespace is. -/
def informed (b : Builder) (attributes : OrderedMap String) : Builder × OrderedMap String :=
  if b.nsPrefix?.isNone then b.capture attributes else (b, attributes)

theorem openElement_eq (b : Builder) (tag : String) (attributes : OrderedMap String) (line : Nat) :
    b.openElement tag attributes line =
      if b.opened.isEmpty ∧ b.root.isSome then
        (.error (b.error "document has more than one root element" line), b)
      else
        let directive := Directive.ofTag? (b.informed attributes).1.nsPrefix tag
        match missing? directive (b.informed attributes).2 with
        | some name => (.error (.requiredAttribute tag name line ""), (b.informed attributes).1)
        | none => (.ok (), (b.informed attributes).1.addNode tag (b.informed attributes).2 line
            directive) := rfl

/-- Knowing the namespace changes nothing that is built. -/
theorem informed_same (b : Builder) (attributes : OrderedMap String) :
    (b.informed attributes).1.nodes = b.nodes ∧ (b.informed attributes).1.root = b.root ∧
      (b.informed attributes).1.opened = b.opened ∧
      (b.informed attributes).1.pending = b.pending ∧
      (b.informed attributes).1.fold = b.fold ∧ (b.informed attributes).1.source = b.source := by
  unfold informed
  split <;> exact ⟨rfl, rfl, rfl, rfl, rfl, rfl⟩

theorem draws_informed (h : b.Draws z) (attributes : OrderedMap String) :
    (b.informed attributes).1.Draws z := by
  unfold informed
  split
  · cases z <;> exact h
  · exact h

theorem distinct_informed (b : Builder) {attributes : OrderedMap String}
    (h : attributes.Distinct) : (b.informed attributes).2.Distinct := by
  unfold informed
  split
  · exact distinct_capture b h
  · exact h

/-- Nothing is missing exactly if a directive has what it requires. -/
theorem missing?_eq_none_iff {directive : Option Directive} {attributes : OrderedMap String} :
    missing? directive attributes = none ↔
      ∀ d, directive = some d → ∀ name ∈ d.required, attributes.contains name = true := by
  cases directive with
  | none => exact ⟨fun _ => nofun, fun _ => rfl⟩
  | some d =>
    rw [missing?, Option.bind_some, List.find?_eq_none]
    constructor
    · rintro h _ ⟨⟩ name hname
      simpa using h name hname
    · intro h name hname
      simpa using h d rfl name hname

/-- Where a root may still be opened, no root is closed. -/
theorem isClosed_of_draws (h : b.Draws z)
    (hroot : ¬ (b.opened.isEmpty ∧ b.root.isSome)) : z.isClosed = false := by
  refine Bool.eq_false_iff.2 fun hz => hroot ?_
  have hopened : b.opened = [] := by
    cases z with
    | closed root => exact h.1
    | empty => cases hz
    | opened => cases hz
  rw [root_isSome_of_draws h hopened, hz, hopened]
  exact ⟨rfl, rfl⟩

/-- What an element says of itself that is added now. -/
def headOf (b : Builder) (tag : String) (attributes : OrderedMap String) (line : Nat)
    (directive : Option Directive) (distinct : attributes.Distinct) : Head :=
  ⟨tag, b.nsPrefix, attributes, true, line, b.pending, directive, distinct⟩

theorem draws_addNode (h : b.Draws z) (hclosed : z.isClosed = false) {tag : String}
    {attributes : OrderedMap String} (distinct : attributes.Distinct) (line : Nat)
    (directive : Option Directive) :
    (b.addNode tag attributes line directive).Draws
      (z.openWith (b.headOf tag attributes line directive distinct)) := by
  obtain ⟨source, fold, nsPrefix?, transSource, nodes, root, opened, pending⟩ := b
  cases z with
  | closed => cases hclosed
  | empty =>
    obtain ⟨hopened, hnodes, -⟩ := h
    dsimp only at hopened hnodes
    subst hopened hnodes
    exact ⟨.cons .nil rfl .nil, rfl⟩
  | opened frame outer =>
    obtain ⟨hspine, hroot⟩ := h
    dsimp only at hspine hroot
    cases opened with
    | nil => cases hspine
    | cons i ids =>
      have hlt := hspine.lt
      have hinner := hspine
      cases hinner with
      | @cons _ children _ _ _ _ _ houter hnode hreads =>
        rw [List.append_nil] at hnode
        refine ⟨?_, hroot⟩
        show Spine _ [] (nodes.length :: i :: ids) _ _
        rw [addNode]
        dsimp only [List.head?_cons]
        rw [List.length_append, List.length_modify]
        -- only the innermost element changes, and the new one comes behind all others
        have hchanged : ∀ (f : Node → Node) (n : Node), (nodes.modify i f ++ [n])[i]? =
            some (f (frame.head.node children ids.head?)) := by
          intro f n
          rw [List.getElem?_append_left (by simpa using hlt), List.getElem?_modify_eq, hnode]
          rfl
        have hsame : ∀ (f : Node → Node) (n : Node) (k : Nat), k < nodes.length → k ≠ i →
            (nodes.modify i f ++ [n])[k]? = nodes[k]? := by
          intro f n k hk hne
          rw [List.getElem?_append_left (by simpa using hk),
            List.getElem?_modify_ne _ _ (Ne.symm hne)]
        have hadded : ∀ (f : Node → Node) (n : Node),
            (nodes.modify i f ++ [n])[nodes.length]? = some n := by
          intro f n
          simp
        refine @Spine.cons _ _ [] _ _ _ _ _ ?_ (hadded _ _) .nil
        refine hspine.update ?_ (hsame _ _) hreads
        exact hchanged _ _

/-! ## Text -/

theorem draws_addText {frame : OpenElement} {outer : List OpenElement}
    (h : b.Draws (.opened frame outer)) (content : String) (line : Nat) :
    (b.addText content line).1 = .ok () ∧
      (b.addText content line).2.Draws ((Outline.opened frame outer).addText content) := by
  obtain ⟨source, fold, nsPrefix?, transSource, nodes, root, opened, pending⟩ := b
  obtain ⟨hspine, hroot⟩ := h
  dsimp only at hspine hroot
  cases opened with
  | nil => cases hspine
  | cons i ids =>
    have hinner := hspine
    cases hinner with
    | @cons _ children _ _ _ _ _ houter hnode hreads =>
      rw [List.append_nil] at hnode
      refine ⟨rfl, ?_, hroot⟩
      show Spine (nodes.modify i _) [] (i :: ids) _ (nodes.modify i _).length
      rw [List.length_modify]
      refine hspine.update ?_ (fun k _ hne => List.getElem?_modify_ne _ _ (Ne.symm hne))
        (hreads.appendText content)
      rw [List.getElem?_modify_eq, hnode, List.append_nil]
      rfl

/-! ## Closing tags -/

/-- The element is folded exactly when it is inert and holds only text. -/
theorem isFoldable_node {nodes : List Node} {p parent : Option Nat} {i j : Nat}
    {children : List Child} {kids : Forest} (h : Reads nodes p i children kids j) (head : Head) :
    (head.node children parent).isFoldable = (head.isInert && kids.isText) := by
  rw [h.isText_iff]
  rfl

theorem folded_node {nodes : List Node} {p : Option Nat} {i j : Nat} {children : List Child}
    {kids : Forest} (h : Reads nodes p i children kids j) (head : Head) (parent : Option Nat) :
    (head.node children parent).folded = head.written kids.ownText := by
  rw [← h.ownText_eq]
  rfl

theorem put_snoc {fold : Bool} {f kids : Forest} {head : Head}
    (h : (fold && (head.isInert && kids.isText)) = false) :
    f.put fold head kids = f.snoc head kids := by
  cases fold with
  | false => rfl
  | true => rw [Forest.put, if_pos rfl, Forest.snocFolded, if_neg (by simpa using h)]

theorem put_appendText {fold : Bool} {f kids : Forest} {head : Head}
    (h : (fold && (head.isInert && kids.isText)) = true) :
    f.put fold head kids = f.appendText (head.written kids.ownText) := by
  obtain ⟨rfl, hinert⟩ := (Bool.and_eq_true _ _).mp h
  rw [Forest.put, if_pos rfl, Forest.snocFolded, if_pos hinert]

/-- The innermost element stays as a child of the one around it. -/
theorem draws_kept (b : Builder) {nodes : List Node} {i : Nat} {ids : List Nat}
    {children : List Child} {outer : List OpenElement} {head : Head} {kids : Forest}
    (houter : Spine nodes [.node i] ids outer i)
    (hnode : nodes[i]? = some (head.node children ids.head?))
    (hreads : Reads nodes (some i) (i + 1) children kids nodes.length) (hopened : b.opened = ids)
    (hnodes : b.nodes = nodes) (hroot : b.root = some (.node 0)) :
    b.Draws (.leave (fun done => done.snoc head kids) outer) := by
  subst hopened hnodes
  cases outer with
  | nil =>
    generalize hids : b.opened = ids at *
    cases houter
    exact ⟨hids, _, hroot, Reads.nil.snoc hnode hreads⟩
  | cons g gs =>
    refine ⟨?_, hroot⟩
    generalize b.opened = ids at *
    cases houter with
    | @cons _ cs _ _ _ p _ hspine hparent hdone =>
      refine .cons hspine ?_ (hdone.snoc hnode hreads)
      rw [hparent, List.append_nil]

/-- The innermost element is replaced by its text; it was the last element of all. -/
theorem draws_folded (b : Builder) (node : Node) {nodes : List Node} {i : Nat} {ids : List Nat}
    {outer : List OpenElement} (houter : Spine nodes [.node i] ids outer i) (hi : i < nodes.length)
    (hparent : node.parent = ids.head?) (hopened : b.opened = ids) (hnodes : b.nodes = nodes)
    (hroot : b.root = some (.node 0)) :
    (b.foldNode i node).Draws (.leave (fun done => done.appendText node.folded) outer) := by
  subst hopened hnodes
  cases outer with
  | nil =>
    generalize hids : b.opened = ids at *
    cases houter
    rw [foldNode, hparent]
    exact ⟨hids, _, rfl, .text .nil⟩
  | cons g gs =>
    generalize hids : b.opened = ids at *
    cases houter with
    | @cons _ cs _ _ _ p _ hspine hnode hdone =>
      have hlt : p < i := hdone.le
      rw [foldNode, hparent, List.head?_cons]
      refine ⟨?_, hroot⟩
      dsimp only
      rw [hids, updateChildren, List.length_modify, List.length_take,
        Nat.min_eq_left (Nat.le_of_lt hi)]
      -- nothing before the folded element changes but its parent
      have hsame : ∀ (f : Node → Node) (k : Nat), k < i → k ≠ p →
          ((b.nodes.take i).modify p f)[k]? = b.nodes[k]? := by
        intro f k hk hne
        rw [List.getElem?_modify_ne _ _ (Ne.symm hne), List.getElem?_take_of_lt hk]
      refine .cons (hspine.congr fun k hk => hsame _ k (by omega) (by omega)) ?_
        ((hdone.appendText node.folded).congr fun k hlow hhigh => hsame _ k hhigh (by omega))
      rw [List.getElem?_modify_eq, List.getElem?_take_of_lt hlt, hnode, List.append_nil]
      show some { g.head.node (cs ++ [Child.node i]) _ with
        children := appendText (cs ++ [Child.node i]).dropLast node.folded } = _
      rw [List.dropLast_concat]
      rfl

/-- **A closing tag closes the innermost element**, and with folding on replaces it by its text if
nothing in it depends on data. -/
theorem draws_closeElement {frame : OpenElement} {outer : List OpenElement}
    (h : b.Draws (.opened frame outer)) (offset line : Nat) :
    (b.closeElement offset line).1 = .ok () ∧
      (b.closeElement offset line).2.Draws
        ((Outline.opened frame outer).close b.fold (endsInSlash b.source offset)) := by
  obtain ⟨source, fold, nsPrefix?, transSource, nodes, root, opened, pending⟩ := b
  obtain ⟨hspine, hroot⟩ := h
  dsimp only at hspine hroot
  cases hspine with
  | @cons _ children ids _ _ i _ houter hnode hreads =>
    have hlt : i < nodes.length := hreads.le
    rw [List.append_nil] at hnode
    -- the element says of itself whether it closes itself; then it is folded or kept
    have hended : ({ frame.head.node children ids.head? with
        selfClosing := (frame.head.node children ids.head?).selfClosing &&
          (frame.head.node children ids.head?).children.isEmpty && endsInSlash source offset } :
            Node) =
        (frame.ended (endsInSlash source offset)).node children ids.head? := by
      rw [OpenElement.ended, hreads.isNil_iff]
      rfl
    have hnode' : ∀ n : Node, (nodes.set i n)[i]? = some n := fun n => List.getElem?_set_self hlt
    have hsame : ∀ (n : Node) (k : Nat), k ≠ i → (nodes.set i n)[k]? = nodes[k]? :=
      fun n k hne => List.getElem?_set_ne (Ne.symm hne)
    have hreads' : ∀ n : Node, Reads (nodes.set i n) (some i) (i + 1) children frame.done
        (nodes.set i n).length := by
      intro n
      rw [List.length_set]
      exact hreads.congr fun k hlow _ => hsame n k (by omega)
    have houter' : ∀ n : Node, Spine (nodes.set i n) [.node i] ids outer i :=
      fun n => houter.congr fun k hk => hsame n k (by omega)
    rw [closeElement, Outline.close]
    dsimp only
    rw [hnode]
    dsimp only
    rw [hended, isFoldable_node hreads]
    refine ⟨rfl, ?_⟩
    generalize hhead : frame.ended (endsInSlash source offset) = head
    rw [hhead] at hended
    split
    · rename_i hfold
      simp only [put_appendText hfold, ← folded_node hreads head ids.head?]
      exact draws_folded ⟨source, fold, nsPrefix?, transSource, _, root, ids, pending⟩
        (head.node children ids.head?) (houter' _) (by simpa using hlt) rfl rfl rfl hroot
    · rename_i hfold
      simp only [put_snoc (Bool.eq_false_iff.2 hfold)]
      exact draws_kept ⟨source, fold, nsPrefix?, transSource, _, root, ids, pending⟩ (houter' _)
        (hnode' _) (hreads' _) rfl rfl hroot

end Builder

end TagTemplate
