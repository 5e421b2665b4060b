import Mathlib.Data.List.Shortlex
import TagTemplate.Proofs.Island.Selection

/-!
# Level by level

In which order a step meets what it looks at. From one context the elements come level by level, and
on each level in the order of the document. Addresses make this an order on lists of numbers: the
order of the document is the lexicographic one, and level by level is the shortlex one.

- `DocumentOrder`, `LevelOrder`: the two orders;
- `pairwise_breadthFirst`: **a queue that is worked off from its front keeps to levels**;
- `pairwise_scopes`, `nodup_scopes`: so does a step with what it looks at, which it meets once;
- `pairwise_elementsFound`, `pairwise_leavesFound`: and with the elements, or the texts and
  attributes, that it finds from one context.
-/

namespace TagTemplate.Island

/-- The order of the document: an element before what is inside of it, and that before what comes
behind it. -/
abbrev DocumentOrder : Address → Address → Prop := List.Lex (· < ·)

/-- Level by level: what is less deep comes first, and what is equally deep in the order of the
document. -/
abbrev LevelOrder : Address → Address → Prop := List.Shortlex (· < ·)

/-- Where a context stands: the document itself is above its root element. -/
def Context.position : Context → Address
  | .document => []
  | .element p => 0 :: p.address

/-- Where a node that is selected stands; an attribute stands at its element. -/
def Match.address : Match → Address
  | .element p => p.address
  | .text address _ => address
  | .attr address _ _ => address

variable {d : Document} {c c' : Context} {p q : Place} {step : Step} {name : String}

/-! ## Addresses -/

theorem lex_trans {α : Type} {r : α → α → Prop} (hr : ∀ a b c, r a b → r b c → r a c)
    {u v w : List α} (h : List.Lex r u v) (h' : List.Lex r v w) : List.Lex r u w := by
  induction h generalizing w with
  | nil => cases h' <;> exact .nil
  | cons _ ih =>
    cases h' with
    | cons h' => exact .cons (ih h')
    | rel hrel => exact .rel hrel
  | rel hrel =>
    cases h' with
    | cons => exact .rel hrel
    | rel hrel' => exact .rel (hr _ _ _ hrel hrel')

/-- Of two addresses equally deep, all below the first comes before all below the second. -/
theorem lex_append {α : Type} {r : α → α → Prop} {u v : List α} (hlength : u.length = v.length)
    (h : List.Lex r u v) (more more' : List α) : List.Lex r (u ++ more) (v ++ more') := by
  induction h with
  | nil => cases hlength
  | cons _ ih => exact .cons (ih (Nat.succ.inj hlength))
  | rel hrel => exact .rel hrel

theorem DocumentOrder.trans {a b e : Address} (h : DocumentOrder a b) (h' : DocumentOrder b e) :
    DocumentOrder a e := by
  refine lex_trans ?_ h h'
  exact fun _ _ _ => Nat.lt_trans

theorem levelOrder_iff {a b : Address} :
    LevelOrder a b ↔ a.length < b.length ∨ a.length = b.length ∧ DocumentOrder a b :=
  List.shortlex_def

theorem LevelOrder.trans {a b e : Address} (h : LevelOrder a b) (h' : LevelOrder b e) :
    LevelOrder a e := by
  rw [levelOrder_iff] at h h' ⊢
  rcases h with h | ⟨hlength, h⟩
  · rcases h' with h' | ⟨hlength', -⟩ <;> left <;> omega
  · rcases h' with h' | ⟨hlength', h'⟩
    · left
      omega
    · exact .inr ⟨hlength.trans hlength', DocumentOrder.trans h h'⟩

theorem LevelOrder.ne {a b : Address} (h : LevelOrder a b) : a ≠ b := by
  rintro rfl
  exact asymm_of LevelOrder h h

/-- What is directly below comes in the order of what it is below. -/
theorem LevelOrder.below {a b : Address} (h : LevelOrder a b) (i j : Nat) :
    LevelOrder (a ++ [i]) (b ++ [j]) := by
  rw [levelOrder_iff] at h ⊢
  simp only [List.length_append, List.length_singleton]
  rcases h with h | ⟨hlength, h⟩
  · exact .inl (Nat.add_lt_add_right h 1)
  · exact .inr ⟨congrArg (· + 1) hlength, lex_append hlength h [i] [j]⟩

/-- What is below comes later than what it is below. -/
theorem levelOrder_append (a : Address) {more : Address} (h : more ≠ []) :
    LevelOrder a (a ++ more) := by
  refine .of_length_lt ?_
  rw [List.length_append]
  have hpos := List.length_pos_of_ne_nil h
  omega

/-- The nodes below one address come in the order of their indices. -/
theorem pairwise_indices (address : Address) (k n : Nat) :
    ((List.range' k n).map fun i => address ++ [i]).Pairwise LevelOrder := by
  refine List.pairwise_map.2 ((List.pairwise_lt_range' (s := k) (n := n) 1).imp fun hlt => ?_)
  exact .append_left ((List.shortlex_singleton_iff _ _).2 hlt) address

/-! ## Children -/

theorem Below.position {i : Nat} (h : Below d c i p) :
    (Context.element p).position = c.position ++ [i] := by
  cases c with
  | document =>
    obtain ⟨rfl, rfl⟩ := below_document.1 h
    rfl
  | element q =>
    show 0 :: p.address = 0 :: q.address ++ [i]
    rw [h.address]
    rfl

/-- What is reached stands below. -/
theorem Reaches.position (h : Reaches d c c') : ∃ more, c'.position = c.position ++ more := by
  induction h with
  | refl => exact ⟨[], (List.append_nil _).symm⟩
  | tail _ hbelow ih =>
    obtain ⟨more, hmore⟩ := ih
    obtain ⟨i, p, hp, rfl⟩ := hbelow
    exact ⟨more ++ [i], by rw [hp.position, hmore, List.append_assoc]⟩

theorem sublist_elementsFrom (address : Address) (k : Nat) (ns : List Node) :
    List.Sublist ((elementsFrom address k ns).map Place.address)
      ((List.range' k ns.length).map fun i => address ++ [i]) := by
  induction ns generalizing k with
  | nil => exact .slnil
  | cons n ns ih =>
    cases n with
    | text content => exact (ih (k + 1)).cons _
    | element => exact (ih (k + 1)).cons_cons _

theorem sublist_textsFrom (address : Address) (k : Nat) (ns : List Node) :
    List.Sublist ((textsFrom address k ns).map Match.address)
      ((List.range' k ns.length).map fun i => address ++ [i]) := by
  induction ns generalizing k with
  | nil => exact .slnil
  | cons n ns ih =>
    cases n with
    | text content => exact (ih (k + 1)).cons_cons _
    | element => exact (ih (k + 1)).cons _

/-- The elements below a context come in the order of the document. -/
theorem pairwise_elements (c : Context) :
    (c.elements d).Pairwise fun p q => LevelOrder p.address q.address := by
  cases c with
  | document => exact List.pairwise_singleton _ _
  | element place =>
    exact List.pairwise_map.1
      ((pairwise_indices place.address 0 place.children.length).sublist (sublist_elementsFrom ..))

/-! ## Queues -/

/-- The first context, and all that is below it, come before what is below the second. -/
structure Ahead (c c' : Context) : Prop where
  first : LevelOrder c.position c'.position
  below : ∀ i, LevelOrder c'.position (c.position ++ [i])

/-- What comes before a whole queue comes before all that is found from it. -/
theorem levelOrder_breadthFirst {fuel : Nat} {queue : List Context} {a : Address}
    (h : ∀ c ∈ queue, LevelOrder a c.position) :
    ∀ c ∈ breadthFirst d fuel queue, LevelOrder a c.position := by
  induction fuel generalizing queue with
  | zero => exact nofun
  | succ fuel ih =>
    cases queue with
    | nil => exact nofun
    | cons c queue =>
      obtain ⟨hfirst, hqueue⟩ := List.forall_mem_cons.1 h
      refine List.forall_mem_cons.2 ⟨hfirst, ih (List.forall_mem_append.2 ⟨hqueue, ?_⟩)⟩
      intro c' hc'
      obtain ⟨i, p, hbelow, rfl⟩ := mem_map_elements.1 hc'
      rw [hbelow.position]
      exact hfirst.trans (levelOrder_append _ (List.cons_ne_nil _ _))

/-- **A queue that is worked off from its front keeps to levels**: as long as everything in it is
ahead of what comes behind, the contexts are taken off level by level. -/
theorem pairwise_breadthFirst (fuel : Nat) {queue : List Context} (h : queue.Pairwise Ahead) :
    (breadthFirst d fuel queue).Pairwise fun c c' => LevelOrder c.position c'.position := by
  induction fuel generalizing queue with
  | zero => exact .nil
  | succ fuel ih =>
    cases queue with
    | nil => exact .nil
    | cons c queue =>
      obtain ⟨hfirst, hqueue⟩ := List.pairwise_cons.1 h
      -- the elements below the first context go to the end, where all others are ahead of them
      have hchildren : ((c.elements d).map Context.element).Pairwise Ahead := by
        refine List.pairwise_map.2 ((pairwise_elements c).imp_of_mem fun {p q} hp hq hpq => ?_)
        obtain ⟨i, hp⟩ := mem_elements.1 hp
        obtain ⟨j, hq⟩ := mem_elements.1 hq
        refine ⟨List.shortlex_cons_iff.2 hpq, fun k => ?_⟩
        rw [hp.position, hq.position]
        refine .of_length_lt ?_
        simp
      have hbehind : ∀ c₁ ∈ queue, ∀ c₂ ∈ (c.elements d).map Context.element, Ahead c₁ c₂ := by
        intro c₁ hc₁ c₂ hc₂
        obtain ⟨i, p, hbelow, rfl⟩ := mem_map_elements.1 hc₂
        constructor
        · rw [hbelow.position]
          exact (hfirst c₁ hc₁).below i
        · intro j
          rw [hbelow.position]
          exact (hfirst c₁ hc₁).first.below i j
      refine List.pairwise_cons.2 ⟨?_, ih (List.pairwise_append.2 ⟨hqueue, hchildren, hbehind⟩)⟩
      refine levelOrder_breadthFirst (List.forall_mem_append.2
        ⟨fun c' hc' => (hfirst c' hc').first, fun c' hc' => ?_⟩)
      obtain ⟨i, p, hbelow, rfl⟩ := mem_map_elements.1 hc'
      rw [hbelow.position]
      exact levelOrder_append _ (List.cons_ne_nil _ _)

/-- A step looks at contexts level by level. -/
theorem pairwise_scopes (step : Step) (c : Context) :
    (step.scopes d c).Pairwise fun c c' => LevelOrder c.position c'.position := by
  unfold Step.scopes
  split
  · exact pairwise_breadthFirst _ (List.pairwise_singleton _ _)
  · exact List.pairwise_singleton _ _

/-- From one context a step looks at nothing twice. -/
theorem nodup_scopes (step : Step) (c : Context) : (step.scopes d c).Nodup :=
  (pairwise_scopes step c).imp fun hless heq => hless.ne (congrArg Context.position heq)

/-! ## Found from one context -/

/-- The elements that a step finds from one context. -/
def Step.elementsFound (d : Document) (step : Step) (name : String) (c : Context) : List Place :=
  (step.scopes d c).flatMap (step.elementsBelow d name)

/-- The texts or attributes that a last step finds from one context. -/
def Step.leavesFound (d : Document) (step : Step) (c : Context) : List Match :=
  (step.scopes d c).flatMap step.test.leaves

theorem sublist_filter (predicate : Predicate) (places : List Place) :
    List.Sublist (predicate.filter places) places := by
  cases predicate with
  | always => exact .refl _
  | position n => exact (List.take_sublist 1 _).trans (List.drop_sublist (n - 1) _)
  | hasAttribute key => exact List.filter_sublist
  | attributeIs key value => exact List.filter_sublist

theorem sublist_elementsBelow (c : Context) :
    List.Sublist (step.elementsBelow d name c) (c.elements d) :=
  (sublist_filter _ _).trans List.filter_sublist

/-- **From one context a step finds elements level by level.** -/
theorem pairwise_elementsFound (c : Context) :
    (step.elementsFound d name c).Pairwise fun p q => LevelOrder p.address q.address := by
  refine List.pairwise_flatMap.2 ⟨fun c' _ => (pairwise_elements c').sublist
    (sublist_elementsBelow c'), (pairwise_scopes step c).imp fun {c₁ c₂} h p hp q hq => ?_⟩
  obtain ⟨i, hp⟩ := mem_elements.1 ((sublist_elementsBelow c₁).subset hp)
  obtain ⟨j, hq⟩ := mem_elements.1 ((sublist_elementsBelow c₂).subset hq)
  have hbelow := h.below i j
  rw [← hp.position, ← hq.position] at hbelow
  exact List.shortlex_cons_iff.1 hbelow

/-- The texts or attributes of an element come in the order of the document. -/
theorem pairwise_leavesAt (test : NodeTest) (c : Context) :
    (test.leaves c).Pairwise fun m m' =>
      LevelOrder m.address m'.address ∨ m.address = m'.address := by
  cases c with
  | document => exact .nil
  | element p =>
    cases test with
    | element name => exact .nil
    | text =>
      have htexts := (pairwise_indices p.address 0 p.children.length).sublist
        (sublist_textsFrom p.address 0 p.children)
      exact (List.pairwise_map.1 htexts).imp .inl
    | attr name => exact List.pairwise_map.2 (List.pairwise_of_forall fun _ _ => .inr rfl)

/-- **From one context a last step finds texts and attributes level by level.** -/
theorem pairwise_leavesFound (c : Context) :
    (step.leavesFound d c).Pairwise fun m m' =>
      LevelOrder m.address m'.address ∨ m.address = m'.address := by
  refine List.pairwise_flatMap.2 ⟨fun c' _ => pairwise_leavesAt step.test c',
    (pairwise_scopes step c).imp fun {c₁ c₂} h m hm m' hm' => .inl ?_⟩
  obtain ⟨p, rfl, hleaf⟩ := mem_leaves.1 hm
  obtain ⟨q, rfl, hleaf'⟩ := mem_leaves.1 hm'
  have hpq : LevelOrder p.address q.address := List.shortlex_cons_iff.1 h
  revert hleaf hleaf'
  cases step.test with
  | element name => exact nofun
  | text =>
    rintro ⟨i, content, -, rfl⟩ ⟨j, content', -, rfl⟩
    exact hpq.below i j
  | attr name =>
    rintro ⟨key, value, -, -, rfl⟩ ⟨key', value', -, -, rfl⟩
    exact hpq

end TagTemplate.Island
