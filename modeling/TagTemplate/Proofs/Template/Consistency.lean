import Mathlib.Data.List.Chain
import TagTemplate.Proofs.Template.Folding

/-!
# The list of elements of a document that is being built

Whatever is handed to a builder, in any order and with errors in between, its list of elements stays
a tree: this is what makes it right to drop the end of the list when an element is folded.

- `Forest.Tidy`, `Outline.Tidy`: texts are merged, directives have their attributes, and with
  folding on nothing that is closed could still be folded;
- `Standing`: an element in the list, with what is in it and the open element behind that;
- `Builder.Consistent`: **what the list of elements, the root and the open elements keep to**;
- `Builder.SameDocument`, `Builder.FoldsLast`: what an error leaves alone, and what folding removes;
- `consistent_after`: a builder after any calls;
- `Template.wellFormed_of_read`: a template that was read has the tree that a renderer relies on.
-/

namespace TagTemplate

/-- A directive has all the attributes that it requires. -/
def Node.HasRequired (n : Node) : Prop :=
  ∀ d, n.directive = some d → ∀ name ∈ d.required, n.attributes.contains name = true

/-- The child is text. -/
def Child.isText : Child → Bool
  | .node _ => false
  | .text _ => true

/-- No text follows on text. -/
def Merged (children : List Child) : Prop :=
  children.IsChain fun c d => ¬ (c.isText = true ∧ d.isText = true)

/-! ## Tidy forests and outlines -/

namespace Forest

/-- Text comes first. -/
def startsWithText : Forest → Bool
  | text _ _ => true
  | _ => false

/-- No text follows on text, directives have their attributes, and with folding on no element could
be folded. -/
def Tidy (fold : Bool) : Forest → Prop
  | nil => True
  | text _ rest => rest.startsWithText = false ∧ rest.Tidy fold
  | element head kids rest =>
    (head.node [] none).HasRequired ∧ (fold && (head.isInert && kids.isText)) = false ∧
      kids.Tidy fold ∧ rest.Tidy fold

variable {fold : Bool} {f kids : Forest} {head : Head}

theorem startsWithText_appendText (h : f ≠ nil) (more : String) :
    (f.appendText more).startsWithText = f.startsWithText := by
  cases f with
  | nil => exact absurd rfl h
  | text content rest => cases rest <;> rfl
  | element => rfl

theorem tidy_appendText (h : f.Tidy fold) (more : String) : (f.appendText more).Tidy fold := by
  induction f with
  | nil => exact ⟨rfl, trivial⟩
  | text content rest ih =>
    obtain ⟨hstart, hrest⟩ := h
    by_cases hnil : rest = nil
    · subst hnil
      exact ⟨rfl, trivial⟩
    · rw [appendText_text_of_ne_nil hnil]
      exact ⟨(startsWithText_appendText hnil more).trans hstart, ih hrest⟩
  | element first inside rest _ ih =>
    obtain ⟨hrequired, hfold, hinside, hrest⟩ := h
    exact ⟨hrequired, hfold, hinside, ih hrest⟩

theorem startsWithText_snoc (f : Forest) (head : Head) (kids : Forest) :
    (f.snoc head kids).startsWithText = f.startsWithText := by
  cases f <;> rfl

theorem tidy_snoc (h : f.Tidy fold) (hrequired : (head.node [] none).HasRequired)
    (hfold : (fold && (head.isInert && kids.isText)) = false) (hkids : kids.Tidy fold) :
    (f.snoc head kids).Tidy fold := by
  induction f with
  | nil => exact ⟨hrequired, hfold, hkids, trivial⟩
  | text content rest ih =>
    obtain ⟨hstart, hrest⟩ := h
    exact ⟨(startsWithText_snoc rest head kids).trans hstart, ih hrest⟩
  | element first inside rest _ ih =>
    obtain ⟨hfirst, hfirstFold, hinside, hrest⟩ := h
    exact ⟨hfirst, hfirstFold, hinside, ih hrest⟩

/-- An element that could be folded is put behind as its text. -/
theorem tidy_put (h : f.Tidy fold) (hrequired : (head.node [] none).HasRequired)
    (hkids : kids.Tidy fold) : (f.put fold head kids).Tidy fold := by
  cases hfold : fold && (head.isInert && kids.isText) with
  | true =>
    rw [Builder.put_appendText hfold]
    exact tidy_appendText h _
  | false =>
    rw [Builder.put_snoc hfold]
    exact tidy_snoc h hrequired hfold hkids

end Forest

/-- The open element has its attributes, and what is in it is tidy. -/
def OpenElement.Tidy (fold : Bool) (f : OpenElement) : Prop :=
  (f.head.node [] none).HasRequired ∧ f.done.Tidy fold

namespace Outline

/-- Everything in the outline is tidy. -/
def Tidy (fold : Bool) : Outline → Prop
  | empty => True
  | opened frame outer => ∀ f ∈ frame :: outer, f.Tidy fold
  | closed root => root.Tidy fold

variable {fold : Bool} {z : Outline}

theorem tidy_openWith (h : z.Tidy fold) {head : Head}
    (hrequired : (head.node [] none).HasRequired) : (z.openWith head).Tidy fold := by
  cases z with
  | empty => exact List.forall_mem_singleton.2 ⟨hrequired, trivial⟩
  | closed root => exact List.forall_mem_singleton.2 ⟨hrequired, trivial⟩
  | opened frame outer =>
    obtain ⟨hframe, houter⟩ := List.forall_mem_cons.1 h
    exact List.forall_mem_cons.2 ⟨⟨hrequired, trivial⟩, List.forall_mem_cons.2 ⟨hframe, houter⟩⟩

theorem tidy_addText (h : z.Tidy fold) (content : String) : (z.addText content).Tidy fold := by
  cases z with
  | empty => exact h
  | closed root => exact h
  | opened frame outer =>
    obtain ⟨⟨hrequired, hdone⟩, houter⟩ := List.forall_mem_cons.1 h
    exact List.forall_mem_cons.2 ⟨⟨hrequired, Forest.tidy_appendText hdone content⟩, houter⟩

theorem tidy_close (h : z.Tidy fold) (slash : Bool) : (z.close fold slash).Tidy fold := by
  cases z with
  | empty => exact h
  | closed root => exact h
  | opened frame outer =>
    obtain ⟨⟨hrequired, hdone⟩, houter⟩ := List.forall_mem_cons.1 h
    cases outer with
    | nil => exact Forest.tidy_put (f := .nil) trivial hrequired hdone
    | cons next outer =>
      obtain ⟨⟨hnext, hnextDone⟩, hothers⟩ := List.forall_mem_cons.1 houter
      exact List.forall_mem_cons.2 ⟨⟨hnext, Forest.tidy_put hnextDone hrequired hdone⟩, hothers⟩

end Outline

/-! ## Calls in any order -/

namespace Builder

/-- Takes in the parts of a document one after the other, whether or not they fail. -/
def after (b : Builder) (events : List BuildEvent) : Builder :=
  events.foldl (fun b e => (b.take e).2) b

/-- The builder draws an outline in which everything is tidy. -/
def DrawsTidy (b : Builder) : Prop := ∃ z, b.Draws z ∧ z.Tidy b.fold

theorem drawsTidy_openElement {b : Builder} (h : b.DrawsTidy) (tag : String)
    {attributes : OrderedMap String} (distinct : attributes.Distinct) (line : Nat) :
    (b.openElement tag attributes line).2.DrawsTidy := by
  obtain ⟨z, hdraws, htidy⟩ := h
  rw [openElement_eq]
  split
  · exact ⟨z, hdraws, htidy⟩
  · rename_i hroot
    have hinformed := draws_informed hdraws attributes
    have hfold := (informed_same b attributes).2.2.2.2.1
    have hdistinct := distinct_informed b distinct
    generalize b.informed attributes = known at *
    obtain ⟨known, kept⟩ := known
    dsimp only
    split
    · refine ⟨z, hinformed, ?_⟩
      dsimp only at hfold ⊢
      rw [hfold]
      exact htidy
    · rename_i hnone
      refine ⟨_, draws_addNode hinformed (isClosed_of_draws hdraws hroot) hdistinct line _, ?_⟩
      show Outline.Tidy known.fold _
      rw [hfold]
      exact Outline.tidy_openWith htidy (missing?_eq_none_iff.1 hnone)

theorem drawsTidy_closeElement {b : Builder} (h : b.DrawsTidy) (offset line : Nat) :
    (b.closeElement offset line).2.DrawsTidy := by
  obtain ⟨z, hdraws, htidy⟩ := h
  cases z with
  | empty => rw [closeElement_nil hdraws.1]; exact ⟨_, hdraws, htidy⟩
  | closed root => rw [closeElement_nil hdraws.1]; exact ⟨_, hdraws, htidy⟩
  | opened frame outer =>
    refine ⟨_, (draws_closeElement hdraws offset line).2, ?_⟩
    rw [(closeElement_same b offset line).2.2.2.2]
    exact Outline.tidy_close htidy _

theorem drawsTidy_addText {b : Builder} (h : b.DrawsTidy) (content : String) (line : Nat) :
    (b.addText content line).2.DrawsTidy := by
  obtain ⟨z, hdraws, htidy⟩ := h
  have hnone : b.opened = [] → (b.addText content line).2.DrawsTidy := by
    intro hopened
    rw [addText, hopened]
    dsimp only
    split <;> exact ⟨z, hdraws, htidy⟩
  cases z with
  | empty => exact hnone hdraws.1
  | closed root => exact hnone hdraws.1
  | opened frame outer =>
    refine ⟨_, (draws_addText hdraws content line).2, ?_⟩
    have hfold : (b.addText content line).2.fold = b.fold := by
      unfold addText
      split
      · split <;> rfl
      · rfl
    rw [hfold]
    exact Outline.tidy_addText htidy content

/-- Every call keeps what is drawn tidy, whether or not it fails. -/
theorem drawsTidy_take {b : Builder} (h : b.DrawsTidy) (e : BuildEvent) :
    (b.take e).2.DrawsTidy := by
  cases e with
  | opening tag attributes line =>
    exact drawsTidy_openElement h tag (OrderedMap.distinct_ofList _) line
  | closing offset line => exact drawsTidy_closeElement h offset line
  | text content line => exact drawsTidy_addText h content line

theorem drawsTidy_after {b : Builder} (h : b.DrawsTidy) (events : List BuildEvent) :
    (b.after events).DrawsTidy := by
  unfold after
  induction events generalizing b with
  | nil => exact h
  | cons e es ih => exact ih (drawsTidy_take h e)

/-- Whether the builder folds never changes. -/
theorem fold_take (b : Builder) (e : BuildEvent) : (b.take e).2.fold = b.fold := by
  cases e with
  | opening tag attributes line =>
    rw [take, openElement_eq]
    split
    · rfl
    · dsimp only
      split <;> exact (informed_same b _).2.2.2.2.1
  | closing offset line => exact (closeElement_same b offset line).2.2.2.2
  | text content line =>
    rw [take, addText]
    split
    · split <;> rfl
    · rfl

theorem fold_after (b : Builder) (events : List BuildEvent) : (b.after events).fold = b.fold := by
  unfold after
  induction events generalizing b with
  | nil => rfl
  | cons e es ih => exact (ih (b.take e).2).trans (fold_take b e)

end Builder

/-! ## Elements in the list -/

/-- The child is an element that comes before all others of the second child. -/
def Child.Before (c d : Child) : Prop := ∀ i j, c = .node i → d = .node j → i < j

/-- The element `k` in the list. What is in it is tidy and comes right after it; behind that stands
the open element, if there is one inside of it. -/
structure Standing (nodes : List Node) (fold : Bool) (k : Nat) (head : Head)
    (inside tail : List Child) (outer : Option Nat) (kids : Forest) (m : Nat) : Prop where
  node : nodes[k]? = some (head.node (inside ++ tail) outer)
  reads : Reads nodes (some k) (k + 1) inside kids m
  tail : tail = [] ∨ tail = [.node m] ∧ ∃ n, nodes[m]? = some n ∧ n.parent = some k
  required : (head.node [] none).HasRequired
  tidy : kids.Tidy fold

/-- The element `k` is in the list: it is open, or nothing open is in it and it is not left to fold.
The element around it has it among its children. -/
inductive Stands (nodes : List Node) (fold : Bool) (opened : List Nat) (k : Nat) : Prop
  | closed {head : Head} {inside : List Child} {outer : Option Nat} {kids : Forest} {m : Nat} :
      Standing nodes fold k head inside [] outer kids m →
      (fold && (head.isInert && kids.isText)) = false → Stands nodes fold opened k
  | opened {head : Head} {inside tail : List Child} {outer : Option Nat} {kids : Forest} {m : Nat} :
      k ∈ opened → Standing nodes fold k head inside tail outer kids m → Stands nodes fold opened k

/-- Some element has `k` among its children. -/
def Listed (nodes : List Node) (k : Nat) : Prop :=
  ∃ (p : Nat) (n : Node), nodes[p]? = some n ∧ .node k ∈ n.children

namespace Reads

variable {nodes : List Node} {parent : Option Nat} {i j k : Nat} {children : List Child}
  {forest : Forest} {fold : Bool}

/-- The elements among the children name their parent. -/
theorem child (h : Reads nodes parent i children forest j) (hk : .node k ∈ children) :
    i ≤ k ∧ k < j ∧ ∃ n, nodes[k]? = some n ∧ n.parent = parent := by
  induction h with
  | nil => cases hk
  | text _ ih =>
    rcases List.mem_cons.1 hk with heq | htail
    · cases heq
    · exact ih htail
  | node hnode hin hrest _ ih =>
    have hle := hin.le
    have hle' := hrest.le
    rcases List.mem_cons.1 hk with heq | htail
    · cases heq
      exact ⟨Nat.le_refl _, by omega, _, hnode, rfl⟩
    · obtain ⟨hlow, hhigh, hfound⟩ := ih htail
      exact ⟨by omega, hhigh, hfound⟩

/-- The elements among the children come in the order of their numbers. -/
theorem pairwise (h : Reads nodes parent i children forest j) :
    children.Pairwise Child.Before := by
  induction h with
  | nil => exact .nil
  | text _ ih => exact .cons (fun _ _ _ _ => nofun) ih
  | node _ hin hrest _ ih =>
    refine .cons (fun d hd => ?_) ih
    rintro i j ⟨⟩ rfl
    have hle := hin.le
    have := (hrest.child hd).1
    omega

theorem isText_head? (h : Reads nodes parent i children forest j) :
    (∃ d ∈ children.head?, d.isText = true) ↔ forest.startsWithText = true := by
  cases h with
  | nil => simp [Forest.startsWithText]
  | text => simp [Forest.startsWithText, Child.isText]
  | node => simp [Forest.startsWithText, Child.isText]

/-- The children of a tidy forest are merged. -/
theorem merged (h : Reads nodes parent i children forest j) (htidy : forest.Tidy fold) :
    Merged children := by
  induction h with
  | nil => exact .nil
  | @text parent i j content children rest hrest ih =>
    obtain ⟨hstart, htail⟩ := htidy
    refine List.isChain_cons.2 ⟨fun d hd hboth => ?_, ih htail⟩
    rw [hrest.isText_head?.1 ⟨d, hd, hboth.2⟩] at hstart
    cases hstart
  | node _ _ _ _ ih =>
    obtain ⟨-, -, -, htail⟩ := htidy
    refine List.isChain_cons.2 ⟨fun d hd hboth => ?_, ih htail⟩
    cases hboth.1

/-- Texts take no number. -/
theorem eq_of_isText (h : Reads nodes parent i children forest j) (htext : forest.isText = true) :
    j = i := by
  induction h with
  | nil => rfl
  | text _ ih => exact ih htext
  | node => cases htext

/-- Every number stands for an element that is closed. -/
theorem stands (h : Reads nodes parent i children forest j) (htidy : forest.Tidy fold)
    (opened : List Nat) (hlow : i ≤ k) (hhigh : k < j) : Stands nodes fold opened k := by
  induction h with
  | nil => omega
  | text _ ih => exact ih htidy.2 hlow hhigh
  | @node parent i m j head inside children kids rest hnode hin hrest ihin ihrest =>
    obtain ⟨hrequired, hfold, hkids, htail⟩ := htidy
    by_cases hfirst : k = i
    · subst hfirst
      have hnode' : nodes[k]? = some (head.node (inside ++ []) parent) := by
        rw [List.append_nil]
        exact hnode
      exact .closed ⟨hnode', hin, .inl rfl, hrequired, hkids⟩ hfold
    · by_cases hinside : k < m
      · exact ihin hkids (by omega) hinside
      · exact ihrest htail (by omega) hhigh

/-- Every number is that of a child, here or further inside. -/
theorem listed (h : Reads nodes parent i children forest j) (hlow : i ≤ k) (hhigh : k < j) :
    .node k ∈ children ∨ Listed nodes k := by
  induction h with
  | nil => omega
  | text _ ih => exact (ih hlow hhigh).imp_left (List.mem_cons_of_mem _)
  | @node parent i m j head inside children kids rest hnode hin hrest ihin ihrest =>
    by_cases hfirst : k = i
    · subst hfirst
      exact .inl List.mem_cons_self
    · by_cases hinside : k < m
      · exact .inr ((ihin (by omega) hinside).elim (fun hmem => ⟨i, _, hnode, hmem⟩) id)
      · exact (ihrest (by omega) hhigh).imp_left (List.mem_cons_of_mem _)

end Reads

namespace Spine

variable {nodes : List Node} {tail : List Child} {ids : List Nat} {frames : List OpenElement}
  {i j k : Nat} {fold : Bool}

/-- Every element before the next number is open or closed. -/
theorem stands (h : Spine nodes tail ids frames j) (htidy : ∀ f ∈ frames, f.Tidy fold)
    (htail : ∀ p ∈ ids.head?, tail = [] ∨ tail = [.node j] ∧
      ∃ n, nodes[j]? = some n ∧ n.parent = some p) (hk : k < j) :
    Stands nodes fold ids k := by
  induction h with
  | nil => omega
  | @cons tail children ids frame frames i j houter hnode hreads ih =>
    obtain ⟨⟨hrequired, hdone⟩, hothers⟩ := List.forall_mem_cons.1 htidy
    by_cases hbefore : k < i
    · -- what is around is seen with this element behind it
      have hstands := ih hothers (fun p hp => .inr ⟨rfl, _, hnode, hp⟩) hbefore
      cases hstands with
      | closed hstanding hfold => exact .closed hstanding hfold
      | opened hmem hstanding => exact .opened (List.mem_cons_of_mem _ hmem) hstanding
    · by_cases hself : k = i
      · subst hself
        exact .opened List.mem_cons_self ⟨hnode, hreads, htail k rfl, hrequired, hdone⟩
      · exact hreads.stands hdone _ (by omega) hk

/-- Every element but the outermost one is a child. -/
theorem listed (h : Spine nodes tail ids frames j) (hpos : 0 < k) (hk : k < j) :
    Listed nodes k := by
  induction h with
  | nil => omega
  | @cons tail children ids frame frames i j houter hnode hreads ih =>
    by_cases hbefore : k < i
    · exact ih hbefore
    · by_cases hself : k = i
      · subst hself
        cases houter with
        | nil => omega
        | cons _ hparent _ => exact ⟨_, _, hparent, by simp [Head.node]⟩
      · exact (hreads.listed (by omega) hk).elim
          (fun hmem => ⟨i, _, hnode, by simp [Head.node, hmem]⟩) id

/-- The outermost element is the first one. -/
theorem getLast?_eq (h : Spine nodes tail (i :: ids) frames j) : (i :: ids).getLast? = some 0 := by
  induction ids generalizing i tail frames j with
  | nil =>
    cases h with
    | cons houter _ _ =>
      cases houter
      rfl
  | cons p ids ih =>
    cases h with
    | cons houter _ _ =>
      rw [List.getLast?_cons_cons]
      exact ih houter

/-- Each open element names the next one as its parent. -/
theorem suffix (h : Spine nodes tail ids frames j) {p : Nat} {rest : List Nat}
    (hsuffix : p :: rest <:+ ids) : ∃ n, nodes[p]? = some n ∧ n.parent = rest.head? := by
  induction h with
  | nil => cases List.suffix_nil.1 hsuffix
  | cons houter hnode _ ih =>
    rcases List.suffix_cons_iff.1 hsuffix with heq | htail
    · cases heq
      exact ⟨_, hnode, rfl⟩
    · exact ih htail

end Spine

namespace Stands

variable {nodes : List Node} {fold : Bool} {opened : List Nat} {k : Nat}

/-- What is known of an element whether or not it is open. -/
theorem standing (h : Stands nodes fold opened k) :
    ∃ head inside tail outer kids m, Standing nodes fold k head inside tail outer kids m := by
  cases h with
  | closed h => exact ⟨_, _, _, _, _, _, h⟩
  | opened _ h => exact ⟨_, _, _, _, _, _, h⟩

end Stands

namespace Standing

variable {nodes : List Node} {fold : Bool} {k m c : Nat} {head : Head} {inside tail : List Child}
  {outer : Option Nat} {kids : Forest}

theorem child (h : Standing nodes fold k head inside tail outer kids m)
    (hc : .node c ∈ inside ++ tail) :
    k < c ∧ ∃ n, nodes[c]? = some n ∧ n.parent = some k := by
  rcases List.mem_append.1 hc with hinside | htail
  · obtain ⟨hlow, -, hparent⟩ := h.reads.child hinside
    exact ⟨hlow, hparent⟩
  · have hle := h.reads.le
    rcases h.tail with rfl | ⟨rfl, hparent⟩
    · cases htail
    · cases List.mem_singleton.1 htail
      exact ⟨by omega, hparent⟩

theorem pairwise (h : Standing nodes fold k head inside tail outer kids m) :
    (inside ++ tail).Pairwise Child.Before := by
  rcases h.tail with heq | ⟨heq, -⟩
  · rw [heq, List.append_nil]
    exact h.reads.pairwise
  · rw [heq]
    refine List.pairwise_append.2 ⟨h.reads.pairwise, List.pairwise_singleton _ _, ?_⟩
    rintro c hc d hd i j rfl rfl
    cases List.mem_singleton.1 hd
    exact (h.reads.child hc).2.1

theorem merged (h : Standing nodes fold k head inside tail outer kids m) :
    Merged (inside ++ tail) := by
  rcases h.tail with heq | ⟨heq, -⟩
  · rw [heq, List.append_nil]
    exact h.reads.merged h.tidy
  · rw [heq]
    refine List.isChain_append.2 ⟨h.reads.merged h.tidy, List.isChain_singleton _, ?_⟩
    rintro c - d hd hboth
    cases hd
    cases hboth.2

/-- No element is a child twice, since the children come in order. -/
theorem position_unique (h : Standing nodes fold k head inside tail outer kids m) {q q' : Nat}
    (hq : (inside ++ tail)[q]? = some (.node c)) (hq' : (inside ++ tail)[q']? = some (.node c)) :
    q = q' := by
  have hpairwise := List.pairwise_iff_getElem.1 h.pairwise
  obtain ⟨hlt, hget⟩ := List.getElem?_eq_some_iff.1 hq
  obtain ⟨hlt', hget'⟩ := List.getElem?_eq_some_iff.1 hq'
  rcases Nat.lt_trichotomy q q' with hless | heq | hless
  · exact absurd (hpairwise q q' hlt hlt' hless c c hget hget') (Nat.lt_irrefl c)
  · exact heq
  · exact absurd (hpairwise q' q hlt' hlt hless c c hget' hget) (Nat.lt_irrefl c)

end Standing

/-! ## Consistent builders -/

/-- The child at a place: the number of an element and a position among its children. -/
def childAt? (nodes : List Node) (place : Nat × Nat) : Option Child :=
  nodes[place.1]?.bind fun n => n.children[place.2]?

namespace Builder

/-- What the elements, the root and the open elements of a builder keep to. -/
structure Consistent (b : Builder) : Prop where
  /-- The number of a child is in the list, behind that of its parent, which the child names. -/
  child : ∀ (p : Nat) (n : Node) (c : Nat), b.nodes[p]? = some n → .node c ∈ n.children →
    p < c ∧ ∃ m : Node, b.nodes[c]? = some m ∧ m.parent = some p
  /-- An element that is the root has no parent and is the first one. -/
  root : ∀ i, b.root = some (.node i) →
    i = 0 ∧ ∃ n : Node, b.nodes[i]? = some n ∧ n.parent = none
  /-- Every element but the root is a child, at exactly one place. -/
  once : ∀ k, k < b.nodes.length → b.root ≠ some (.node k) →
    ∃! place, childAt? b.nodes place = some (.node k)
  /-- Each open element names the next one as its parent; the outermost one has none. -/
  chain : ∀ (i : Nat) (ids : List Nat), i :: ids <:+ b.opened →
    ∃ n : Node, b.nodes[i]? = some n ∧ n.parent = ids.head?
  /-- The outermost open element is the root. -/
  outermost : ∀ i, b.opened.getLast? = some i → b.root = some (.node i)
  merged : ∀ n ∈ b.nodes, Merged n.children
  required : ∀ n ∈ b.nodes, n.HasRequired
  /-- With folding on, an element that is left over and closed cannot be folded. -/
  settled : b.fold = true → ∀ (i : Nat) (n : Node), b.nodes[i]? = some n → i ∉ b.opened →
    n.isFoldable = false

variable {b : Builder}

theorem stands_of_drawsTidy {z : Outline} (h : b.Draws z) (htidy : z.Tidy b.fold) {k : Nat}
    (hk : k < b.nodes.length) : Stands b.nodes b.fold b.opened k := by
  cases z with
  | empty =>
    rw [h.2.1] at hk
    exact absurd hk (Nat.not_lt_zero k)
  | opened frame outer => exact h.1.stands htidy (fun _ _ => .inl rfl) hk
  | closed root =>
    obtain ⟨-, c, -, hreads⟩ := h
    exact hreads.stands htidy _ (Nat.zero_le k) hk

/-- Every element but the first one is a child. -/
theorem listed_of_draws {z : Outline} (h : b.Draws z) {k : Nat} (hk : k < b.nodes.length)
    (hroot : b.root ≠ some (.node k)) : Listed b.nodes k := by
  cases z with
  | empty =>
    rw [h.2.1] at hk
    exact absurd hk (Nat.not_lt_zero k)
  | opened frame outer =>
    refine h.1.listed (Nat.pos_of_ne_zero fun hzero => hroot ?_) hk
    rw [hzero]
    exact h.2
  | closed root =>
    obtain ⟨-, c, hc, hreads⟩ := h
    refine (hreads.listed (Nat.zero_le k) hk).resolve_left fun hmem => hroot ?_
    rw [hc, List.mem_singleton.1 hmem]

/-- Each open element names the one around it. -/
theorem chain_of_draws {z : Outline} (h : b.Draws z) {i : Nat} {ids : List Nat}
    (hsuffix : i :: ids <:+ b.opened) :
    ∃ n : Node, b.nodes[i]? = some n ∧ n.parent = ids.head? := by
  cases z with
  | empty =>
    rw [h.1] at hsuffix
    cases List.suffix_nil.1 hsuffix
  | opened frame outer => exact h.1.suffix hsuffix
  | closed root =>
    rw [h.1] at hsuffix
    cases List.suffix_nil.1 hsuffix

/-- The outermost open element is the first one, and the root. -/
theorem outermost_of_draws {z : Outline} (h : b.Draws z) {i : Nat}
    (hi : b.opened.getLast? = some i) : i = 0 ∧ b.root = some (.node 0) := by
  cases z with
  | empty =>
    rw [h.1] at hi
    cases hi
  | opened frame outer =>
    obtain ⟨hspine, hroot⟩ := h
    cases hopened : b.opened with
    | nil =>
      rw [hopened] at hi
      cases hi
    | cons j ids =>
      rw [hopened] at hspine hi
      exact ⟨Option.some.inj (hi.symm.trans hspine.getLast?_eq), hroot⟩
  | closed root =>
    rw [h.1] at hi
    cases hi

/-- An element that is the root is the first one, and has no parent. -/
theorem root_of_draws {z : Outline} (h : b.Draws z) {i : Nat} (hi : b.root = some (.node i)) :
    i = 0 ∧ ∃ n : Node, b.nodes[i]? = some n ∧ n.parent = none := by
  cases z with
  | empty =>
    rw [h.2.2] at hi
    cases hi
  | opened frame outer =>
    cases h.2.symm.trans hi
    cases hopened : b.opened with
    | nil =>
      have hspine := h.1
      rw [hopened] at hspine
      cases hspine
    | cons j ids =>
      have hlast := h.1
      rw [hopened] at hlast
      obtain ⟨before, hsplit⟩ := List.getLast?_eq_some_iff.1 hlast.getLast?_eq
      have hsuffix : [0] <:+ b.opened := ⟨before, hsplit.symm.trans hopened.symm⟩
      exact ⟨rfl, chain_of_draws h hsuffix⟩
  | closed root =>
    obtain ⟨-, c, hroot, hreads⟩ := h
    cases hroot.symm.trans hi
    cases hreads with
    | node hnode _ _ => exact ⟨rfl, _, hnode, rfl⟩

/-- What is known of an element in the list of a builder. -/
theorem exists_standing (h : b.DrawsTidy) {k : Nat} {n : Node} (hn : b.nodes[k]? = some n) :
    ∃ head inside tail outer kids m, Standing b.nodes b.fold k head inside tail outer kids m ∧
      n = head.node (inside ++ tail) outer := by
  obtain ⟨z, hdraws, htidy⟩ := h
  obtain ⟨head, inside, tail, outer, kids, m, hstanding⟩ :=
    (stands_of_drawsTidy hdraws htidy (List.getElem?_eq_some_iff.1 hn).1).standing
  exact ⟨head, inside, tail, outer, kids, m, hstanding,
    Option.some.inj (hn.symm.trans hstanding.node)⟩

/-- A child comes behind its parent, and names it. -/
theorem child_of_drawsTidy (h : b.DrawsTidy) {p c : Nat} {n : Node} (hn : b.nodes[p]? = some n)
    (hc : .node c ∈ n.children) : p < c ∧ ∃ m : Node, b.nodes[c]? = some m ∧ m.parent = some p := by
  obtain ⟨head, inside, tail, outer, kids, m, hstanding, rfl⟩ := exists_standing h hn
  exact hstanding.child hc

/-- No element is a child at two places: it names one parent, and is one of its children once. -/
theorem place_unique (h : b.DrawsTidy) {k : Nat} {place place' : Nat × Nat}
    (hplace : childAt? b.nodes place = some (.node k))
    (hplace' : childAt? b.nodes place' = some (.node k)) : place = place' := by
  obtain ⟨n, hn, hq⟩ := Option.bind_eq_some_iff.1 hplace
  obtain ⟨n', hn', hq'⟩ := Option.bind_eq_some_iff.1 hplace'
  obtain ⟨-, m, hm, hparent⟩ := child_of_drawsTidy h hn (List.mem_iff_getElem?.2 ⟨_, hq⟩)
  obtain ⟨-, m', hm', hparent'⟩ := child_of_drawsTidy h hn' (List.mem_iff_getElem?.2 ⟨_, hq'⟩)
  cases hm.symm.trans hm'
  -- the child names one parent, so both places are among the same children
  have hsame : place.1 = place'.1 := Option.some.inj (hparent.symm.trans hparent')
  rw [← hsame] at hn'
  cases hn.symm.trans hn'
  obtain ⟨head, inside, tail, outer, kids, m, hstanding, rfl⟩ := exists_standing h hn
  exact Prod.ext hsame (hstanding.position_unique hq hq')

/-- **A tidy outline is drawn by a consistent builder.** -/
theorem consistent_of_drawsTidy (h : b.DrawsTidy) : b.Consistent where
  child p n c hn hc := child_of_drawsTidy h hn hc
  root i hi := by
    obtain ⟨z, hdraws, -⟩ := h
    exact root_of_draws hdraws hi
  once k hk hroot := by
    obtain ⟨z, hdraws, htidy⟩ := h
    obtain ⟨p, n, hn, hmem⟩ := listed_of_draws hdraws hk hroot
    obtain ⟨q, hq⟩ := List.mem_iff_getElem?.1 hmem
    have hplace : childAt? b.nodes (p, q) = some (.node k) :=
      Option.bind_eq_some_iff.2 ⟨n, hn, hq⟩
    exact ⟨(p, q), hplace, fun place hplace' =>
      place_unique ⟨z, hdraws, htidy⟩ hplace' hplace⟩
  chain i ids hsuffix := by
    obtain ⟨z, hdraws, -⟩ := h
    exact chain_of_draws hdraws hsuffix
  outermost i hi := by
    obtain ⟨z, hdraws, -⟩ := h
    obtain ⟨rfl, hroot⟩ := outermost_of_draws hdraws hi
    exact hroot
  merged n hn := by
    obtain ⟨k, hk⟩ := List.mem_iff_getElem?.1 hn
    obtain ⟨head, inside, tail, outer, kids, m, hstanding, rfl⟩ := exists_standing h hk
    exact hstanding.merged
  required n hn := by
    obtain ⟨k, hk⟩ := List.mem_iff_getElem?.1 hn
    obtain ⟨head, inside, tail, outer, kids, m, hstanding, rfl⟩ := exists_standing h hk
    exact hstanding.required
  settled hfold i n hn hopened := by
    obtain ⟨z, hdraws, htidy⟩ := h
    cases stands_of_drawsTidy hdraws htidy (List.getElem?_eq_some_iff.1 hn).1 with
    | opened hmem _ => exact absurd hmem hopened
    | closed hstanding hkept =>
      cases hn.symm.trans hstanding.node
      rw [List.append_nil, isFoldable_node hstanding.reads]
      rw [hfold, Bool.true_and] at hkept
      exact hkept

/-! ## Errors and folding -/

/-- The second builder has the elements, the root, the open elements and the text of the first. -/
structure SameDocument (b b' : Builder) : Prop where
  nodes : b'.nodes = b.nodes
  root : b'.root = b.root
  opened : b'.opened = b.opened
  pending : b'.pending = b.pending

/-- A call that fails changes nothing of the document. -/
theorem sameDocument_of_error {e : BuildEvent} {error : Error} (h : (b.take e).1 = .error error) :
    b.SameDocument (b.take e).2 := by
  -- what an element declares is noted before it is refused, and is no part of the document
  cases e with
  | opening tag attributes line =>
    rw [take, openElement_eq] at h ⊢
    split
    · exact ⟨rfl, rfl, rfl, rfl⟩
    · rename_i hroot
      rw [if_neg hroot] at h
      dsimp only at h ⊢
      split at h
      · obtain ⟨hnodes, hroot, hopened, hpending, -⟩ := informed_same b (.ofList attributes)
        exact ⟨hnodes, hroot, hopened, hpending⟩
      · cases h
  | closing offset line =>
    rw [take, closeElement] at h ⊢
    split at h
    · exact ⟨rfl, rfl, rfl, rfl⟩
    · split at h <;> cases h
  | text content line =>
    rw [take, addText] at h ⊢
    split at h
    · split at h
      · cases h
      · rename_i hblank
        rw [if_neg hblank]
        exact ⟨rfl, rfl, rfl, rfl⟩
    · cases h

/-- Folding the element `id` removes it from the end of the list, changes no other element but its
parent, whose last child it was, and leaves no reference to it behind. -/
structure FoldsLast (b : Builder) (id : Nat) (n : Node) (b' : Builder) : Prop where
  last : b.nodes.length = id + 1
  removed : b'.nodes.length = id
  same : ∀ k, k < id → n.parent ≠ some k → b'.nodes[k]? = b.nodes[k]?
  parent : ∀ p, n.parent = some p → ∃ (m : Node) (children : List Child) (text : String),
    b.nodes[p]? = some m ∧ m.children = children ++ [.node id] ∧
      b'.nodes[p]? = some { m with children := appendText children text }
  forgotten : b'.root ≠ some (.node id) ∧ id ∉ b'.opened ∧ ∀ m ∈ b'.nodes, .node id ∉ m.children

/-- Nothing that is still in the document refers to a number behind the list. -/
theorem Consistent.notMem (h : b.Consistent) {id : Nat} (hlength : b.nodes.length = id) :
    b.root ≠ some (.node id) ∧ id ∉ b.opened ∧ ∀ m ∈ b.nodes, .node id ∉ m.children := by
  have hnone : ∀ n : Node, b.nodes[id]? ≠ some n := by
    intro n hn
    have hlt := (List.getElem?_eq_some_iff.1 hn).1
    omega
  refine ⟨fun hroot => ?_, fun hmem => ?_, fun m hm hmem => ?_⟩
  · obtain ⟨-, n, hn, -⟩ := h.root id hroot
    exact hnone n hn
  · obtain ⟨before, ids, hsplit⟩ := List.append_of_mem hmem
    obtain ⟨n, hn, -⟩ := h.chain id ids ⟨before, hsplit.symm⟩
    exact hnone n hn
  · obtain ⟨p, hp⟩ := List.mem_iff_getElem?.1 hm
    obtain ⟨-, n, hn, -⟩ := h.child p m id hp hmem
    exact hnone n hn

/-- An element that is folded is cut off the list, and its parent has text for it. -/
theorem nodes_closeElement_folded {id : Nat} {ids : List Nat} {n : Node}
    (hopened : b.opened = id :: ids) (hn : b.nodes[id]? = some n) (hfold : b.fold = true)
    (hfoldable : n.isFoldable = true) (offset line : Nat) :
    ∃ text, (b.closeElement offset line).2.nodes =
      match n.parent with
      | some p => updateChildren p (fun children => appendText children.dropLast text)
          (b.nodes.take id)
      | none => b.nodes.take id := by
  -- the element says whether it closes itself before it is folded
  let ended : Node := { n with
    selfClosing := n.selfClosing && n.children.isEmpty && endsInSlash b.source offset }
  have hended : ended.isFoldable = true := hfoldable
  have hclose : (b.closeElement offset line).2 =
      ({ b with nodes := b.nodes.set id ended, opened := ids } : Builder).foldNode id ended := by
    rw [closeElement, hopened]
    dsimp only
    rw [hn]
    dsimp only
    rw [if_pos]
    rw [hfold, Bool.true_and]
    exact hended
  refine ⟨ended.folded, ?_⟩
  rw [hclose, foldNode]
  show Builder.nodes (match n.parent with | some parent => _ | none => _) = _
  cases n.parent <;> dsimp only <;> rw [List.take_set_of_le (Nat.le_refl id)]

/-- **What is folded is the last element**: it holds only text, and everything behind it in the list
would be inside of it. -/
theorem foldsLast_closeElement (h : b.DrawsTidy) {id : Nat} {ids : List Nat} {n : Node}
    (hopened : b.opened = id :: ids) (hn : b.nodes[id]? = some n) (hfold : b.fold = true)
    (hfoldable : n.isFoldable = true) (offset line : Nat) :
    b.FoldsLast id n (b.closeElement offset line).2 := by
  have hafter := consistent_of_drawsTidy (drawsTidy_closeElement h offset line)
  obtain ⟨z, hdraws, -⟩ := h
  have hempty := opened_isEmpty_of_draws hdraws
  rw [hopened] at hempty
  cases z with
  | empty => cases hempty
  | closed root => cases hempty
  | opened frame outer =>
    obtain ⟨hspine, -⟩ := hdraws
    rw [hopened] at hspine
    cases hspine with
    | @cons _ children _ _ _ _ _ houter hnode hreads =>
      rw [List.append_nil] at hnode
      cases hn.symm.trans hnode
      rw [isFoldable_node hreads] at hfoldable
      -- only texts are inside, and they take no number
      have hlength : b.nodes.length = id + 1 :=
        hreads.eq_of_isText ((Bool.and_eq_true _ _).mp hfoldable).2
      obtain ⟨text, hnodes⟩ := nodes_closeElement_folded hopened hnode hfold
        ((isFoldable_node hreads frame.head).trans hfoldable) offset line
      dsimp only [Head.node] at hnodes
      have hremoved : (b.closeElement offset line).2.nodes.length = id := by
        rw [hnodes]
        split
        · rw [updateChildren, List.length_modify, List.length_take, hlength]
          omega
        · rw [List.length_take, hlength]
          omega
      refine ⟨hlength, hremoved, fun k hk hparent => ?_, fun p hparent => ?_,
        hafter.notMem hremoved⟩
      · rw [hnodes]
        split
        · rename_i p hp
          have hne : p ≠ k := fun heq => hparent (heq ▸ hp)
          rw [updateChildren, List.getElem?_modify_ne _ _ hne, List.getElem?_take_of_lt hk]
        · rw [List.getElem?_take_of_lt hk]
      · rw [hnodes]
        have hhead : ids.head? = some p := hparent
        rw [hhead]
        cases houter with
        | nil => cases hhead
        | @cons _ before _ outer _ _ _ _ hp hdone =>
          cases hhead
          have hlt : p < id := hdone.le
          refine ⟨_, before, text, hp, rfl, ?_⟩
          dsimp only
          rw [updateChildren, List.getElem?_modify_eq, List.getElem?_take_of_lt hlt, hp]
          show some { outer.head.node (before ++ [Child.node id]) _ with
            children := appendText (before ++ [Child.node id]).dropLast text } = _
          rw [List.dropLast_concat]

/-- **A builder is consistent after any calls in any order**, with folding or without it and
whatever errors there were; an error leaves the document as it was, and folding an element removes
this element alone, to which nothing refers any more. -/
theorem consistent_after (source : List Char) (fold : Bool) (events : List BuildEvent) :
    let b := (start source fold).after events
    b.fold = fold ∧ b.Consistent ∧
      (∀ e error, (b.take e).1 = .error error → b.SameDocument (b.take e).2) ∧
      ∀ id ids n offset line, b.opened = id :: ids → b.nodes[id]? = some n → b.fold = true →
        n.isFoldable = true → b.FoldsLast id n (b.closeElement offset line).2 := by
  have hstart : (start source fold).DrawsTidy := ⟨.empty, draws_start source fold, trivial⟩
  have hafter := drawsTidy_after hstart events
  exact ⟨fold_after _ events, consistent_of_drawsTidy hafter,
    fun e error => sameDocument_of_error,
    fun id ids n offset line hopened hn hfold hfoldable =>
      foldsLast_closeElement hafter hopened hn hfold hfoldable offset line⟩

/-! ## Reading -/

variable {b b' : Builder}

/-- A call that did not fail leaves the builder that it answers with. -/
theorem eq_of_map_eq_ok {answer : Except Error Unit × Builder}
    (h : answer.1.map (fun _ => answer.2) = .ok b') : answer.2 = b' := by
  obtain ⟨-, -, heq⟩ := map_eq_ok h
  exact heq

theorem drawsTidy_openTag (h : b.DrawsTidy) {tag : Markup.Tag} {line : Nat}
    (hopen : b.openTag tag line = .ok b') : b'.DrawsTidy := by
  unfold openTag at hopen
  split at hopen
  · cases hopen
  · rw [← eq_of_map_eq_ok hopen]
    exact drawsTidy_openElement h _ (OrderedMap.distinct_ofList _) line

theorem drawsTidy_closeTag (h : b.DrawsTidy) {offset line : Nat}
    (hclose : b.closeTag offset line = .ok b') : b'.DrawsTidy := by
  rw [← eq_of_map_eq_ok hclose]
  exact drawsTidy_closeElement h offset line

theorem drawsTidy_addCharacters (h : b.DrawsTidy) {content : List Char} {line : Nat}
    (htext : b.addCharacters content line = .ok b') : b'.DrawsTidy := by
  rw [← eq_of_map_eq_ok htext]
  exact drawsTidy_addText h _ line

/-- An event that is taken in keeps what is drawn tidy. -/
theorem drawsTidy_add (h : b.DrawsTidy) {e : Markup.Located} {line : Nat}
    (hadd : b.add e line = .ok b') : b'.DrawsTidy := by
  unfold add at hadd
  split at hadd
  · exact drawsTidy_openTag h hadd
  · obtain ⟨opened, hopen, hclose⟩ := bind_eq_ok hadd
    exact drawsTidy_closeTag (drawsTidy_openTag h hopen) hclose
  · exact drawsTidy_closeTag h hadd
  · exact drawsTidy_addCharacters h hadd
  · exact drawsTidy_addCharacters h hadd
  · exact drawsTidy_addCharacters h hadd
  · cases hadd
    exact h

theorem drawsTidy_addAll (h : b.DrawsTidy) {lines lines' : LineCursor} {es : List Markup.Located}
    (hadd : b.addAll lines es = .ok (b', lines')) : b'.DrawsTidy := by
  induction es generalizing b lines with
  | nil =>
    cases hadd
    exact h
  | cons e es ih =>
    obtain ⟨next, hfirst, hothers⟩ := bind_eq_ok hadd
    exact ih (drawsTidy_add h hfirst) hothers

end Builder

/-- What a renderer relies on: every number leads to an element, that of a child to one behind its
parent, and every directive has the attributes that it requires. -/
structure Tree.WellFormed (t : Tree) : Prop where
  root : ∀ i, t.root = some (.node i) → i < t.nodes.length
  child : ∀ (p : Nat) (n : Node) (c : Nat), t.nodes[p]? = some n → .node c ∈ n.children →
    p < c ∧ c < t.nodes.length
  required : ∀ n ∈ t.nodes, n.HasRequired

/-- **A template that was read has a well-formed tree.** -/
theorem Template.wellFormed_of_read {source sourcePath : String} {fold : Bool} {t : Template}
    (h : Template.read source sourcePath fold = .ok t) : t.tree.WellFormed := by
  have hread : Template.readSource source.toList sourcePath fold = .ok t := mapError_eq_ok h
  obtain ⟨⟨b, lines⟩, hadd, hfinish⟩ := bind_eq_ok hread
  have hconsistent : b.Consistent :=
    Builder.consistent_of_drawsTidy (Builder.drawsTidy_addAll
      ⟨.empty, Builder.draws_start source.toList fold, trivial⟩ hadd)
  have htree : t.tree = ⟨b.nodes, b.root⟩ := by
    dsimp only at hfinish
    split at hfinish
    · cases hfinish
    · unfold Builder.finish at hfinish
      split_ifs at hfinish
      cases hfinish
      rfl
  rw [htree]
  refine ⟨fun i hi => ?_, fun p n c hn hc => ?_, hconsistent.required⟩
  · obtain ⟨-, n, hn, -⟩ := hconsistent.root i hi
    exact (List.getElem?_eq_some_iff.1 hn).1
  · obtain ⟨hbehind, m, hm, -⟩ := hconsistent.child p n c hn hc
    exact ⟨hbehind, (List.getElem?_eq_some_iff.1 hm).1⟩

end TagTemplate
