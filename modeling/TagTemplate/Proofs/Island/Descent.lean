import Mathlib.Data.List.Basic
import Mathlib.Logic.Relation
import TagTemplate.Island.Select

/-!
# The elements below a context

What a query looks at, said as relations between contexts: an element is below a context at an
index, and a context reaches all that is below it. A place is known by its address.

- `Below`: the element at an index below a context, with `getElem?_filter_elements` for the elements
  that have a name;
- `Reaches`: from a context to those below it, in any number of steps;
- `mem_breadthFirst`, `mem_selfAndDescendants`: **going level by level finds exactly what is
  reached**, since the number of elements bounds the contexts that are taken off the queue;
- `eq_of_address_eq`: places of a document with the same address are the same.
-/

namespace TagTemplate.Island

/-! ## Children -/

/-- The nodes directly below a context. -/
def Context.nodes (d : Document) : Context → List Node
  | .document => [d.root]
  | .element place => place.children

/-- The address of a node below a context, given its index. That of the root element is empty. -/
def Context.childAddress : Context → Nat → Address
  | .document, _ => []
  | .element place, i => place.address ++ [i]

/-- The place is the element at an index among the nodes below a context. -/
structure Below (d : Document) (c : Context) (i : Nat) (p : Place) : Prop where
  node : (c.nodes d)[i]? = some (.element p.name p.attributes p.children)
  address : p.address = c.childAddress i

/-- The node is an element whose name passes. -/
def Node.passes (f : String → Bool) : Node → Bool
  | .text _ => false
  | .element name _ _ => f name

/-- Which node is the n-th element among those whose name passes. -/
theorem getElem?_filter_elementsFrom (f : String → Bool) (address : Address) (ns : List Node)
    (k m : Nat) (p : Place) :
    ((elementsFrom address k ns).filter fun q => f q.name)[m]? = some p ↔
      ∃ i, ns[i]? = some (.element p.name p.attributes p.children) ∧
        p.address = address ++ [k + i] ∧ f p.name = true ∧
        (ns.take i).countP (Node.passes f) = m := by
  induction ns generalizing k m with
  | nil => simp [elementsFrom]
  | cons n ns ih =>
    have hshift : ∀ i, k + 1 + i = k + (i + 1) := by
      intro i
      omega
    -- the node itself is the first one to ask, and the rest is one place further on
    rw [← Nat.or_exists_add_one]
    simp only [List.getElem?_cons_zero, List.getElem?_cons_succ, List.take_succ_cons,
      List.countP_cons]
    cases n with
    | text content =>
      rw [elementsFrom, ih]
      simp [Node.passes, hshift]
    | element name attributes children =>
      obtain ⟨place, placeName, placeAttributes, placeChildren⟩ := p
      rw [elementsFrom]
      cases hname : f name with
      | false =>
        rw [List.filter_cons_of_neg (by simp [hname]), ih]
        simp only [Node.passes, hname, hshift]
        constructor
        · exact Or.inr
        · rintro (⟨hnode, -, hpasses, -⟩ | h)
          · cases hnode
            rw [hname] at hpasses
            cases hpasses
          · exact h
      | true =>
        rw [List.filter_cons_of_pos (by simp [hname])]
        cases m with
        | zero =>
          simp only [List.getElem?_cons_zero, Node.passes, hname, if_true, Nat.add_one_ne_zero,
            and_false, exists_false, or_false]
          constructor
          · rintro ⟨⟩
            exact ⟨rfl, rfl, hname, rfl⟩
          · rintro ⟨hnode, rfl, -, -⟩
            cases hnode
            rfl
        | succ m =>
          rw [List.getElem?_cons_succ, ih]
          simp [Node.passes, hname, hshift]

variable {d : Document} {c c' : Context} {p q : Place}

/-- Below the document itself there is the root element. -/
theorem below_document {i : Nat} : Below d .document i p ↔ i = 0 ∧ p = d.place := by
  constructor
  · rintro ⟨hnode, haddress⟩
    obtain ⟨address, name, attributes, children⟩ := p
    obtain rfl : address = [] := haddress
    cases i with
    | zero =>
      cases hnode
      exact ⟨rfl, rfl⟩
    | succ i => cases hnode
  · rintro ⟨rfl, rfl⟩
    exact ⟨rfl, rfl⟩

/-- **Which node below a context is the n-th element whose name passes.** -/
theorem getElem?_filter_elements (f : String → Bool) (m : Nat) (p : Place) :
    ((c.elements d).filter fun q => f q.name)[m]? = some p ↔
      ∃ i, Below d c i p ∧ f p.name = true ∧
        ((c.nodes d).take i).countP (Node.passes f) = m := by
  -- below the document there is the root alone, below an element all that is among its nodes
  cases c with
  | element place =>
    rw [Context.elements, getElem?_filter_elementsFrom]
    simp only [Nat.zero_add]
    constructor
    · rintro ⟨i, hnode, haddress, hrest⟩
      exact ⟨i, ⟨hnode, haddress⟩, hrest⟩
    · rintro ⟨i, ⟨hnode, haddress⟩, hrest⟩
      exact ⟨i, hnode, haddress, hrest⟩
  | document =>
    simp only [below_document]
    constructor
    · intro h
      have hmem := List.mem_filter.1 (List.mem_of_getElem? h)
      obtain rfl := List.mem_singleton.1 hmem.1
      refine ⟨0, ⟨rfl, rfl⟩, hmem.2, ?_⟩
      have hlength := (List.getElem?_eq_some_iff.1 h).1
      have hle := List.length_filter_le (fun q : Place => f q.name) (Context.document.elements d)
      rw [Context.elements, List.length_singleton] at hle
      rw [Context.elements] at hlength
      show 0 = m
      omega
    · rintro ⟨i, ⟨rfl, rfl⟩, hname, rfl⟩
      have hfilter : ([d.place].filter fun q => f q.name) = [d.place] :=
        List.filter_cons_of_pos hname
      rw [Context.elements, hfilter]
      rfl

/-- The elements of a context are those below it. -/
theorem mem_elements : p ∈ c.elements d ↔ ∃ i, Below d c i p := by
  have hall : ((c.elements d).filter fun q => (fun _ => true) q.name) = c.elements d :=
    List.filter_eq_self.2 fun _ _ => rfl
  rw [List.mem_iff_getElem?, ← hall]
  constructor
  · rintro ⟨m, hm⟩
    obtain ⟨i, hbelow, -⟩ := (getElem?_filter_elements (fun _ => true) m p).1 hm
    exact ⟨i, hbelow⟩
  · rintro ⟨i, hbelow⟩
    exact ⟨_, (getElem?_filter_elements (fun _ => true) _ p).2 ⟨i, hbelow, rfl, rfl⟩⟩

/-! ## Descending -/

/-- From a context to an element directly below it. -/
def Descends (d : Document) (c c' : Context) : Prop := ∃ i p, Below d c i p ∧ c' = .element p

/-- From a context to those below it, in any number of steps. -/
def Reaches (d : Document) : Context → Context → Prop := Relation.ReflTransGen (Descends d)

theorem mem_map_elements : c' ∈ (c.elements d).map Context.element ↔ Descends d c c' := by
  rw [List.mem_map]
  constructor
  · rintro ⟨p, hp, rfl⟩
    obtain ⟨i, hbelow⟩ := mem_elements.1 hp
    exact ⟨i, p, hbelow, rfl⟩
  · rintro ⟨i, p, hbelow, rfl⟩
    exact ⟨p, mem_elements.2 ⟨i, hbelow⟩, rfl⟩

/-- The number of contexts that a context reaches, itself included. -/
def Context.size (d : Document) : Context → Nat
  | .document => d.root.elementCount + 1
  | .element place => elementCounts place.children + 1

/-- The number of contexts that those of a queue reach. -/
def totalSize (d : Document) : List Context → Nat
  | [] => 0
  | c :: queue => c.size d + totalSize d queue

theorem totalSize_append (queue queue' : List Context) :
    totalSize d (queue ++ queue') = totalSize d queue + totalSize d queue' := by
  induction queue with
  | nil => exact (Nat.zero_add _).symm
  | cons c queue ih => rw [List.cons_append, totalSize, totalSize, ih, Nat.add_assoc]

theorem size_pos (c : Context) : 0 < c.size d := by
  cases c <;> exact Nat.succ_pos _

theorem totalSize_elementsFrom (address : Address) (k : Nat) (ns : List Node) :
    totalSize d ((elementsFrom address k ns).map Context.element) = elementCounts ns := by
  induction ns generalizing k with
  | nil => rfl
  | cons n ns ih =>
    cases n with
    | text content =>
      rw [elementsFrom, ih, elementCounts, Node.elementCount, Nat.zero_add]
    | element name attributes children =>
      rw [elementsFrom, elementCounts, Node.elementCount, ← ih (k + 1)]
      rfl

/-- A context reaches itself, and what the elements below it reach. -/
theorem size_eq (c : Context) :
    c.size d = totalSize d ((c.elements d).map Context.element) + 1 := by
  cases c with
  | document => rfl
  | element place =>
    rw [Context.elements, totalSize_elementsFrom]
    rfl

/-- **Going level by level finds exactly what the queue reaches**, given fuel for all of it. -/
theorem mem_breadthFirst {fuel : Nat} {queue : List Context} (hfuel : totalSize d queue ≤ fuel) :
    c' ∈ breadthFirst d fuel queue ↔ ∃ c ∈ queue, Reaches d c c' := by
  -- every context that is taken off the queue leaves one less to be found
  induction fuel generalizing queue with
  | zero =>
    have hnil : queue = [] := by
      cases queue with
      | nil => rfl
      | cons c queue =>
        have hpos := size_pos (d := d) c
        have hsum : c.size d + totalSize d queue ≤ 0 := hfuel
        omega
    rw [hnil]
    simp [breadthFirst]
  | succ fuel ih =>
    cases queue with
    | nil => simp [breadthFirst]
    | cons c queue =>
      have hsum : c.size d + totalSize d queue ≤ fuel + 1 := hfuel
      have hrest : totalSize d (queue ++ (c.elements d).map Context.element) ≤ fuel := by
        rw [size_eq] at hsum
        rw [totalSize_append]
        omega
      rw [breadthFirst, List.mem_cons, ih hrest]
      simp only [List.mem_append, List.exists_mem_cons_iff]
      constructor
      · rintro (rfl | ⟨c₁, hqueue | hbelow, hreaches⟩)
        · exact .inl .refl
        · exact .inr ⟨c₁, hqueue, hreaches⟩
        · exact .inl (.head (mem_map_elements.1 hbelow) hreaches)
      · rintro (hreaches | ⟨c₁, hqueue, hreaches⟩)
        · rcases Relation.ReflTransGen.cases_head hreaches with rfl | ⟨c₁, hbelow, hreaches⟩
          · exact .inl rfl
          · exact .inr ⟨c₁, .inr (mem_map_elements.2 hbelow), hreaches⟩
        · exact .inr ⟨c₁, .inl hqueue, hreaches⟩

/-- Less is reached from further below. -/
theorem size_le_of_reaches (h : Reaches d c c') : c'.size d ≤ c.size d := by
  induction h with
  | refl => exact Nat.le_refl _
  | @tail c₁ c₂ _ hbelow ih =>
    obtain ⟨before, after, hsplit⟩ := List.append_of_mem (mem_map_elements.2 hbelow)
    have hlast : totalSize d (c₂ :: after) = c₂.size d + totalSize d after := rfl
    rw [size_eq c₁, hsplit, totalSize_append, hlast] at ih
    omega

/-- **A context of the document is followed by exactly what it reaches.** -/
theorem mem_selfAndDescendants (h : Reaches d .document c) :
    c' ∈ c.selfAndDescendants d ↔ Reaches d c c' := by
  have hfuel : totalSize d [c] ≤ d.root.elementCount + 1 := size_le_of_reaches h
  rw [Context.selfAndDescendants, mem_breadthFirst hfuel]
  simp

/-! ## Addresses -/

/-- The nodes directly inside of a node. -/
def Node.children : Node → List Node
  | .text _ => []
  | .element _ _ children => children

/-- The node at an address. -/
def Node.at? (n : Node) : Address → Option Node
  | [] => some n
  | i :: address => n.children[i]?.bind fun child => child.at? address

theorem Node.at?_append (n : Node) (address address' : Address) :
    n.at? (address ++ address') = (n.at? address).bind fun m => m.at? address' := by
  induction address generalizing n with
  | nil => rfl
  | cons i address ih =>
    rw [List.cons_append, Node.at?, Node.at?, Option.bind_assoc]
    congr 1
    funext child
    exact ih child

/-- The element that a context is of is at its address. -/
def Context.IsAt (d : Document) : Context → Prop
  | .document => True
  | .element p => d.root.at? p.address = some (.element p.name p.attributes p.children)

/-- The elements that the document reaches are at their addresses. -/
theorem isAt_of_reaches (h : Reaches d .document c) : c.IsAt d := by
  induction h with
  | refl => trivial
  | @tail c₁ c₂ _ hbelow ih =>
    obtain ⟨i, p, hp, rfl⟩ := hbelow
    cases c₁ with
    | document =>
      obtain ⟨-, rfl⟩ := below_document.1 hp
      rfl
    | element q =>
      show d.root.at? p.address = _
      rw [hp.address, Context.childAddress, Node.at?_append, ih]
      show (q.children[i]?.bind fun child => some child) = _
      rw [Option.bind_fun_some]
      exact hp.node

/-- **Places of a document with the same address are the same.** -/
theorem eq_of_address_eq (hp : Reaches d .document (.element p))
    (hq : Reaches d .document (.element q)) (h : p.address = q.address) : p = q := by
  have hat : d.root.at? p.address = some (.element p.name p.attributes p.children) :=
    isAt_of_reaches hp
  have hat' : d.root.at? q.address = some (.element q.name q.attributes q.children) :=
    isAt_of_reaches hq
  rw [h, hat'] at hat
  obtain ⟨address, name, attributes, children⟩ := p
  obtain ⟨address', name', attributes', children'⟩ := q
  cases hat
  cases h
  rfl

end TagTemplate.Island
