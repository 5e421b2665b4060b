import Mathlib.Data.List.Basic
import TagTemplate.Proofs.Template.Forest

/-!
# Forests in a list of elements

- `Reads`: children, read through the list of elements they refer to, are a forest whose elements
  are numbered in document order and name their parent;
- `Reads.unique`: there is only one such forest;
- `Spine`: the open elements of a document that is being built, each with what is already in it;
- `Reads.congr`, `Spine.congr`: both look only at the elements they number.
-/

namespace TagTemplate

/-- The children, read in `nodes`, are the forest. Its elements have the numbers from `i` up to `j`
in document order, and those that no other one is around have the parent `parent`. -/
inductive Reads (nodes : List Node) : Option Nat → Nat → List Child → Forest → Nat → Prop
  | nil {parent : Option Nat} {i : Nat} : Reads nodes parent i [] .nil i
  | text {parent : Option Nat} {i j : Nat} {content : String} {children : List Child}
      {rest : Forest} :
      Reads nodes parent i children rest j →
      Reads nodes parent i (.text content :: children) (.text content rest) j
  | node {parent : Option Nat} {i j k : Nat} {head : Head} {inside children : List Child}
      {kids rest : Forest} :
      nodes[i]? = some (head.node inside parent) →
      Reads nodes (some i) (i + 1) inside kids j → Reads nodes parent j children rest k →
      Reads nodes parent i (.node i :: children) (.element head kids rest) k

/-- An element says what its head and its children are. -/
theorem Head.node_inj {head head' : Head} {children children' : List Child}
    {parent parent' : Option Nat} (h : head.node children parent = head'.node children' parent') :
    head = head' ∧ children = children' := by
  obtain ⟨tag, nsPrefix, attributes, selfClosing, line, precedingText, directive, distinct⟩ := head
  obtain
    ⟨tag', nsPrefix', attributes', selfClosing', line', precedingText', directive', distinct'⟩ :=
    head'
  unfold node at h
  cases h
  exact ⟨rfl, rfl⟩

/-! ## Text behind children -/

theorem appendText_cons {first : Child} {children : List Child} (h : children ≠ [])
    (more : String) :
    appendText (first :: children) more = first :: appendText children more := by
  unfold appendText
  rw [List.getLast?_cons_of_ne_nil h]
  split
  · rw [List.dropLast_cons_of_ne_nil h]
    rfl
  · rfl

theorem appendText_node (id : Nat) (children : List Child) (more : String) :
    appendText (.node id :: children) more = .node id :: appendText children more := by
  cases children with
  | nil => rfl
  | cons => exact appendText_cons (List.cons_ne_nil _ _) more

namespace Reads

variable {nodes nodes' : List Node} {parent : Option Nat} {i j k : Nat} {children : List Child}
  {forest : Forest}

theorem le (h : Reads nodes parent i children forest j) : i ≤ j := by
  induction h with
  | nil => exact Nat.le_refl _
  | text _ ih => exact ih
  | node _ _ _ ihin ihrest => omega

/-- Only the elements from `i` up to `j` matter. -/
theorem congr (h : Reads nodes parent i children forest j)
    (hsame : ∀ k, i ≤ k → k < j → nodes'[k]? = nodes[k]?) :
    Reads nodes' parent i children forest j := by
  induction h with
  | nil => exact .nil
  | text _ ih => exact .text (ih hsame)
  | @node parent i j k head inside children kids rest hnode hin hrest ihin ihrest =>
    have hle := hin.le
    have hle' := hrest.le
    exact .node ((hsame i (Nat.le_refl i) (by omega)).trans hnode)
      (ihin fun m hlow hhigh => hsame m (by omega) (by omega))
      (ihrest fun m hlow hhigh => hsame m (by omega) hhigh)

/-- There is one forest that the children are. -/
theorem unique {forest' : Forest} {j' : Nat} (h : Reads nodes parent i children forest j)
    (h' : Reads nodes parent i children forest' j') : forest = forest' ∧ j = j' := by
  induction h generalizing forest' j' with
  | nil =>
    cases h'
    exact ⟨rfl, rfl⟩
  | text _ ih =>
    cases h' with
    | text hrest' =>
      obtain ⟨rfl, rfl⟩ := ih hrest'
      exact ⟨rfl, rfl⟩
  | node hnode _ _ ihin ihrest =>
    cases h' with
    | node hnode' hin' hrest' =>
      obtain ⟨rfl, rfl⟩ := Head.node_inj (Option.some.inj (hnode.symm.trans hnode'))
      obtain ⟨rfl, rfl⟩ := ihin hin'
      obtain ⟨rfl, rfl⟩ := ihrest hrest'
      exact ⟨rfl, rfl⟩

/-- Every number stands for an element of the forest. -/
theorem exists_head (h : Reads nodes parent i children forest j) (hlow : i ≤ k) (hhigh : k < j) :
    ∃ (head : Head) (inside : List Child) (outer : Option Nat),
      nodes[k]? = some (head.node inside outer) := by
  induction h with
  | nil => omega
  | text _ ih => exact ih hlow hhigh
  | @node parent i m j head inside children kids rest hnode hin hrest ihin ihrest =>
    by_cases hfirst : k = i
    · subst hfirst
      exact ⟨head, inside, parent, hnode⟩
    · by_cases hinside : k < m
      · exact ihin (by omega) hinside
      · exact ihrest (by omega) hhigh

/-- An element put behind all others takes the next number. -/
theorem snoc (h : Reads nodes parent i children forest j) {head : Head} {inside : List Child}
    {kids : Forest} (hnode : nodes[j]? = some (head.node inside parent))
    (hin : Reads nodes (some j) (j + 1) inside kids k) :
    Reads nodes parent i (children ++ [.node j]) (forest.snoc head kids) k := by
  induction h with
  | nil => exact .node hnode hin .nil
  | text _ ih => exact .text (ih hnode hin)
  | node hfirst hinside _ _ ih => exact .node hfirst hinside (ih hnode hin)

/-- Text put behind all others. -/
theorem appendText (h : Reads nodes parent i children forest j) (more : String) :
    Reads nodes parent i (TagTemplate.appendText children more) (forest.appendText more) j := by
  induction h with
  | nil => exact .text .nil
  | @text parent i j content children rest hrest ih =>
    -- the last child is continued if it is text, so one more step is looked at
    cases hrest with
    | nil => exact .text .nil
    | text hrest =>
      rw [appendText_cons (List.cons_ne_nil _ _)]
      exact .text ih
    | node hnode hin hrest =>
      rw [appendText_cons (List.cons_ne_nil _ _)]
      exact .text ih
  | @node parent i j k head inside children kids rest hnode hin hrest _ ih =>
    rw [appendText_node]
    exact .node hnode hin ih

/-- Children that are a forest without elements are texts, and the other way round. -/
theorem isText_iff (h : Reads nodes parent i children forest j) :
    forest.isText = children.all fun | .text _ => true | .node _ => false := by
  induction h with
  | nil => rfl
  | text _ ih => rw [Forest.isText, ih]; rfl
  | node => rfl

theorem isNil_iff (h : Reads nodes parent i children forest j) :
    forest.isNil = children.isEmpty := by
  cases h <;> rfl

theorem ownText_eq (h : Reads nodes parent i children forest j) :
    String.join (children.map fun | .text content => content | .node _ => "") = forest.ownText := by
  induction h with
  | nil => rfl
  | text _ ih => rw [List.map_cons, String.join_cons, ih]; rfl
  | node _ _ _ _ ih => rw [List.map_cons, String.join_cons, ih]; simp [Forest.ownText]

end Reads

/-! ## Open elements -/

/-- An open element with what is already in it. -/
structure OpenElement where
  head : Head
  done : Forest

/-- The open elements, innermost first, with the numbers of their elements; `j` is the next number.
Behind what is in the innermost one stands `tail`. -/
inductive Spine (nodes : List Node) : List Child → List Nat → List OpenElement → Nat → Prop
  | nil {tail : List Child} : Spine nodes tail [] [] 0
  | cons {tail children : List Child} {ids : List Nat} {frame : OpenElement}
      {frames : List OpenElement}
      {i j : Nat} :
      Spine nodes [.node i] ids frames i →
      nodes[i]? = some (frame.head.node (children ++ tail) ids.head?) →
      Reads nodes (some i) (i + 1) children frame.done j →
      Spine nodes tail (i :: ids) (frame :: frames) j

namespace Spine

variable {nodes nodes' : List Node} {tail : List Child} {ids : List Nat} {frames : List OpenElement}
  {frame : OpenElement} {i j : Nat}

/-- Only the elements before `j` matter. -/
theorem congr (h : Spine nodes tail ids frames j) (hsame : ∀ k, k < j → nodes'[k]? = nodes[k]?) :
    Spine nodes' tail ids frames j := by
  induction h with
  | nil => exact .nil
  | cons _ hnode hreads ih =>
    have hle := hreads.le
    exact .cons (ih fun k hk => hsame k (by omega)) ((hsame _ (by omega)).trans hnode)
      (hreads.congr fun k _ hk => hsame k hk)

theorem lt (h : Spine nodes tail (i :: ids) frames j) : i < j := by
  cases h with
  | cons _ _ hreads =>
    have hle := hreads.le
    omega

/-- Changing the innermost element, and nothing before the next number besides. -/
theorem update (h : Spine nodes [] (i :: ids) (frame :: frames) j) {frame' : OpenElement}
    {children : List Child}
    (hnode : nodes'[i]? = some (frame'.head.node (children ++ tail) ids.head?))
    (hsame : ∀ k, k < j → k ≠ i → nodes'[k]? = nodes[k]?)
    (hreads : Reads nodes (some i) (i + 1) children frame'.done j) :
    Spine nodes' tail (i :: ids) (frame' :: frames) j := by
  have hlt := h.lt
  cases h with
  | cons houter _ _ =>
    exact .cons (houter.congr fun k hk => hsame k (by omega) (by omega)) hnode
      (hreads.congr fun k hlow hhigh => hsame k hhigh (by omega))

end Spine

end TagTemplate
