import Mathlib.Data.List.Nodup
import Mathlib.Data.Set.Image
import TagTemplate.Proofs.Except
import TagTemplate.Proofs.Island.Descent

/-!
# What a query selects

A location path denotes a set of nodes, which is said here without queues and lists: what a step
denotes from a set of contexts is what it denotes from any of them. Selecting follows the path with
lists of contexts, and finds this set.

- `Predicate.Keeps`, `Step.places`, `denotation`: the sets that predicates, steps and paths denote;
- `mem_stepElements`, `nodup_stepElements`: a step finds the elements that it denotes, each once;
- `mem_follow`: following a path finds what it denotes;
- `accepted_of_readQuery`: what a query that can be read keeps to;
- `select_denotes`: **a query selects exactly what its path denotes**, and elements once.
-/

namespace TagTemplate.Island

/-! ## Denotation -/

/-- The name is one that a test for elements or attributes asks for. -/
def named (wanted name : String) : Bool := wanted = "*" || name = wanted

/-- A predicate keeps an element, given the context that it is below and its index there. Positions
count the elements in front of it that have the name, too. -/
def Predicate.Keeps (predicate : Predicate) (d : Document) (name : String) (c : Context) (i : Nat)
    (p : Place) : Prop :=
  match predicate with
  | .always => True
  | .position n => ((c.nodes d).take i).countP (Node.passes (named name)) + 1 = n
  | .hasAttribute key => p.attributes.contains key = true
  | .attributeIs key value => p.attributes.get? key = some value

/-- A step looks at the context that it is taken from, with `//` at all that this one reaches. -/
def Step.LooksAt (step : Step) (d : Document) (c c' : Context) : Prop :=
  if step.descendant then Reaches d c c' else c' = c

/-- The elements with a name that a step denotes, taken from any of the contexts. -/
def Step.places (step : Step) (d : Document) (name : String) (contexts : Set Context) : Set Place :=
  {p | ∃ c ∈ contexts, ∃ c' i, step.LooksAt d c c' ∧ Below d c' i p ∧ named name p.name = true ∧
    step.predicate.Keeps d name c' i p}

/-- The texts or attributes of an element that a test asks for. -/
def NodeTest.IsLeaf (test : NodeTest) (p : Place) (m : Match) : Prop :=
  match test with
  | .element _ => False
  | .text => ∃ i content, p.children[i]? = some (.text content) ∧
      m = .text (p.address ++ [i]) content
  | .attr name => ∃ key value, (key, value) ∈ p.attributes.entries ∧ named name key = true ∧
      m = .attr p.address key value

/-- What steps denote, taken from a set of contexts. Nothing comes behind a step that asks for texts
or attributes. -/
def denotation (d : Document) : List Step → Set Context → Set Match
  | [], contexts => {m | ∃ p, .element p ∈ contexts ∧ m = .element p}
  | step :: steps, contexts =>
    match step.test with
    | .element name => denotation d steps (Context.element '' step.places d name contexts)
    | test => {m | ∃ c ∈ contexts, ∃ p, step.LooksAt d c (.element p) ∧ test.IsLeaf p m}

/-- What a path denotes: its steps are taken from the document, and without steps it is the root
element. -/
def Document.denotation (d : Document) : List Step → Set Match
  | [] => {.element d.place}
  | step :: steps => Island.denotation d (step :: steps) {.document}

variable {d : Document} {c c' : Context} {p : Place} {step : Step} {name : String}

/-! ## Steps -/

/-- The contexts that a step looks at. -/
theorem mem_scopes (h : Reaches d .document c) : c' ∈ step.scopes d c ↔ step.LooksAt d c c' := by
  unfold Step.scopes Step.LooksAt
  split
  · exact mem_selfAndDescendants h
  · exact List.mem_singleton

/-- What a step looks at is below the document as well. -/
theorem Step.LooksAt.reaches (h : step.LooksAt d c c') (hc : Reaches d .document c) :
    Reaches d .document c' := by
  unfold LooksAt at h
  split at h
  · exact Relation.ReflTransGen.trans hc h
  · rw [h]
    exact hc

theorem mem_take_one_drop {α : Type} {l : List α} {k : Nat} {a : α} :
    a ∈ (l.drop k).take 1 ↔ l[k]? = some a := by
  rw [List.take_one, List.head?_drop, Option.mem_toList]

/-- **A step finds below a context what it denotes**, unless it asks for a position before the
first. -/
theorem mem_elementsBelow (hposition : step.predicate ≠ .position 0) :
    p ∈ step.elementsBelow d name c ↔ ∃ i, Below d c i p ∧ named name p.name = true ∧
      step.predicate.Keeps d name c i p := by
  have hall : p ∈ (c.elements d).filter (fun q => named name q.name) ↔
      ∃ i, Below d c i p ∧ named name p.name = true := by
    rw [List.mem_filter, mem_elements]
    exact exists_and_right.symm
  show p ∈ step.predicate.filter ((c.elements d).filter fun q => named name q.name) ↔ _
  -- a position counts elements, every other predicate looks at one element by itself
  cases hpredicate : step.predicate with
  | always =>
    rw [Predicate.filter, hall]
    simp [Predicate.Keeps]
  | position n =>
    have hpos : n ≠ 0 := by
      rintro rfl
      exact hposition hpredicate
    have hcount : ∀ k, k + 1 = n ↔ k = n - 1 := by
      intro k
      omega
    rw [Predicate.filter, mem_take_one_drop, getElem?_filter_elements (named name)]
    simp only [Predicate.Keeps, hcount]
  | hasAttribute key =>
    rw [Predicate.filter, List.mem_filter, hall]
    simp [Predicate.Keeps, and_assoc]
  | attributeIs key value =>
    rw [Predicate.filter, List.mem_filter, hall]
    simp [Predicate.Keeps, and_assoc]

/-! ## Each element once -/

theorem mem_of_mem_addPlace {found : List Place} {q : Place} (h : p ∈ addPlace found q) :
    p ∈ found ∨ p = q := by
  unfold addPlace at h
  split at h
  · exact .inl h
  · exact (List.mem_append.1 h).imp_right List.mem_singleton.1

theorem subset_addPlace (found : List Place) (q : Place) : found ⊆ addPlace found q := by
  unfold addPlace
  split
  · exact List.Subset.refl _
  · exact List.subset_append_left ..

theorem exists_mem_addPlace (found : List Place) (q : Place) :
    ∃ p ∈ addPlace found q, p.address = q.address := by
  unfold addPlace
  split
  · rename_i h
    obtain ⟨p, hp, haddress⟩ := List.any_eq_true.1 h
    exact ⟨p, hp, of_decide_eq_true haddress⟩
  · exact ⟨q, List.mem_append_right _ List.mem_cons_self, rfl⟩

theorem nodup_addPlace {found : List Place} (h : (found.map Place.address).Nodup) (q : Place) :
    ((addPlace found q).map Place.address).Nodup := by
  unfold addPlace
  split
  · exact h
  · rename_i hnew
    rw [List.map_append]
    refine List.nodup_append.2 ⟨h, List.nodup_singleton _, fun address haddress other hother => ?_⟩
    obtain ⟨p, hp, rfl⟩ := List.mem_map.1 haddress
    rw [List.mem_singleton.1 hother]
    intro heq
    exact hnew (List.any_eq_true.2 ⟨p, hp, decide_eq_true heq⟩)

theorem nodup_foldl_addPlace (places : List Place) {found : List Place}
    (h : (found.map Place.address).Nodup) :
    ((places.foldl addPlace found).map Place.address).Nodup := by
  induction places generalizing found with
  | nil => exact h
  | cons q places ih => exact ih (nodup_addPlace h q)

/-- Adding places up to their addresses leaves none out, if the address tells which place it is. -/
theorem mem_foldl_addPlace {places found : List Place}
    (hsame : ∀ p ∈ places, ∀ q ∈ found ++ places, p.address = q.address → p = q) :
    p ∈ places.foldl addPlace found ↔ p ∈ found ∨ p ∈ places := by
  induction places generalizing found with
  | nil => simp
  | cons q places ih =>
    -- a place that is left out has the address of one that is there, so it is the same place
    have hfirst : ∀ {p}, p ∈ addPlace found q ↔ p ∈ found ∨ p = q := by
      intro p
      refine ⟨mem_of_mem_addPlace, ?_⟩
      rintro (hp | rfl)
      · exact subset_addPlace found q hp
      · obtain ⟨other, hother, haddress⟩ := exists_mem_addPlace found p
        have hold : other ∈ found ++ p :: places := by
          rcases mem_of_mem_addPlace hother with hfound | rfl
          · exact List.mem_append_left _ hfound
          · exact List.mem_append_right _ List.mem_cons_self
        exact hsame p List.mem_cons_self other hold haddress.symm ▸ hother
    have hothers : ∀ p ∈ places, ∀ other ∈ addPlace found q ++ places,
        p.address = other.address → p = other := by
      intro p hp other hother
      refine hsame p (List.mem_cons_of_mem _ hp) other ?_
      rw [List.mem_append, hfirst] at hother
      rw [List.mem_append, List.mem_cons]
      tauto
    rw [List.foldl_cons, ih hothers, hfirst, List.mem_cons, or_assoc]

/-- **The elements that a step finds have different addresses.** -/
theorem nodup_stepElements (contexts : List Context) :
    ((step.elements d name contexts).map Place.address).Nodup :=
  nodup_foldl_addPlace _ List.nodup_nil

theorem reaches_of_mem_places {contexts : Set Context}
    (hcontexts : ∀ c ∈ contexts, Reaches d .document c) (h : p ∈ step.places d name contexts) :
    Reaches d .document (.element p) := by
  obtain ⟨c, hc, c', i, hlooks, hbelow, -⟩ := h
  exact .tail (hlooks.reaches (hcontexts c hc)) ⟨i, p, hbelow, rfl⟩

/-- **A step finds the elements that it denotes.** -/
theorem mem_stepElements (hposition : step.predicate ≠ .position 0) {contexts : List Context}
    (hcontexts : ∀ c ∈ contexts, Reaches d .document c) :
    p ∈ step.elements d name contexts ↔ p ∈ step.places d name {c | c ∈ contexts} := by
  have hmem : ∀ {p}, p ∈ (contexts.flatMap (step.scopes d)).flatMap (step.elementsBelow d name) ↔
      p ∈ step.places d name {c | c ∈ contexts} := by
    intro p
    simp only [List.mem_flatMap, mem_elementsBelow hposition]
    constructor
    · rintro ⟨c', ⟨c, hc, hscope⟩, i, hbelow, hname, hkeeps⟩
      exact ⟨c, hc, c', i, (mem_scopes (hcontexts c hc)).1 hscope, hbelow, hname, hkeeps⟩
    · rintro ⟨c, hc, c', i, hlooks, hbelow, hname, hkeeps⟩
      exact ⟨c', ⟨c, hc, (mem_scopes (hcontexts c hc)).2 hlooks⟩, i, hbelow, hname, hkeeps⟩
  -- what is found from several contexts is in the document, where addresses tell places apart
  have hsame : ∀ p ∈ (contexts.flatMap (step.scopes d)).flatMap (step.elementsBelow d name),
      ∀ q ∈ [] ++ (contexts.flatMap (step.scopes d)).flatMap (step.elementsBelow d name),
      p.address = q.address → p = q := by
    intro p hp q hq
    exact eq_of_address_eq (reaches_of_mem_places hcontexts (hmem.1 hp))
      (reaches_of_mem_places hcontexts (hmem.1 hq))
  rw [Step.elements, mem_foldl_addPlace hsame, hmem]
  simp

/-! ## Texts and attributes -/

theorem mem_textsFrom {address : Address} {ns : List Node} {k : Nat} {m : Match} :
    m ∈ textsFrom address k ns ↔
      ∃ i content, ns[i]? = some (.text content) ∧ m = .text (address ++ [k + i]) content := by
  induction ns generalizing k with
  | nil => simp [textsFrom]
  | cons n ns ih =>
    have hshift : ∀ i, k + 1 + i = k + (i + 1) := by
      intro i
      omega
    rw [← Nat.or_exists_add_one]
    cases n with
    | text content => simp [textsFrom, ih, hshift]
    | element name attributes children => simp [textsFrom, ih, hshift]

/-- **A last step finds at a context the texts or attributes that it asks for.** -/
theorem mem_leaves {test : NodeTest} {m : Match} :
    m ∈ test.leaves c ↔ ∃ p, c = .element p ∧ test.IsLeaf p m := by
  cases c with
  | document => simp [NodeTest.leaves]
  | element p =>
    cases test with
    | element name => simp [NodeTest.leaves, NodeTest.IsLeaf]
    | text =>
      rw [NodeTest.leaves, mem_textsFrom]
      simp [NodeTest.IsLeaf]
    | attr name =>
      rw [NodeTest.leaves, List.mem_map]
      constructor
      · rintro ⟨⟨key, value⟩, hentry, rfl⟩
        obtain ⟨hmem, hname⟩ := List.mem_filter.1 hentry
        exact ⟨p, rfl, key, value, hmem, hname, rfl⟩
      · rintro ⟨q, ⟨⟩, key, value, hmem, hname, rfl⟩
        exact ⟨(key, value), List.mem_filter.2 ⟨hmem, hname⟩, rfl⟩

/-- A last step finds from contexts the texts or attributes that it denotes. -/
theorem mem_flatMap_leaves {contexts : List Context}
    (hcontexts : ∀ c ∈ contexts, Reaches d .document c) {test : NodeTest} {m : Match} :
    m ∈ (contexts.flatMap (step.scopes d)).flatMap test.leaves ↔
      ∃ c ∈ contexts, ∃ p, step.LooksAt d c (.element p) ∧ test.IsLeaf p m := by
  simp only [List.mem_flatMap, mem_leaves]
  constructor
  · rintro ⟨c', ⟨c, hc, hscope⟩, p, rfl, hleaf⟩
    exact ⟨c, hc, p, (mem_scopes (hcontexts c hc)).1 hscope, hleaf⟩
  · rintro ⟨c, hc, p, hlooks, hleaf⟩
    exact ⟨.element p, ⟨c, hc, (mem_scopes (hcontexts c hc)).2 hlooks⟩, p, rfl, hleaf⟩

/-! ## Paths -/

/-- From no contexts nothing is found. -/
theorem follow_nil (steps : List Step) : follow d steps [] = [] := by
  induction steps with
  | nil => rfl
  | cons step steps ih =>
    rw [follow]
    split
    · exact ih
    · rw [ih]
      rfl

/-- **Following a path finds what it denotes.** -/
theorem mem_follow {steps : List Step} (hpositions : ∀ step ∈ steps, step.predicate ≠ .position 0)
    {contexts : List Context} (hcontexts : ∀ c ∈ contexts, Reaches d .document c) {m : Match} :
    m ∈ follow d steps contexts ↔ m ∈ denotation d steps {c | c ∈ contexts} := by
  induction steps generalizing contexts with
  | nil =>
    rw [follow, List.mem_filterMap]
    constructor
    · rintro ⟨c, hc, hm⟩
      cases c with
      | document => cases hm
      | element p => exact ⟨p, hc, (Option.some.inj hm).symm⟩
    · rintro ⟨p, hp, rfl⟩
      exact ⟨.element p, hp, rfl⟩
  | cons step steps ih =>
    obtain ⟨hposition, hpositions⟩ := List.forall_mem_cons.1 hpositions
    -- steps behind a leaf begin nowhere and find nothing
    have hleaves : ∀ test : NodeTest,
        m ∈ (contexts.flatMap (step.scopes d)).flatMap test.leaves ++ follow d steps [] ↔
          ∃ c ∈ contexts, ∃ p, step.LooksAt d c (.element p) ∧ test.IsLeaf p m := by
      intro test
      rw [follow_nil, List.append_nil, mem_flatMap_leaves hcontexts]
    cases htest : step.test with
    | text =>
      simp only [follow, denotation, htest]
      exact hleaves .text
    | attr name =>
      simp only [follow, denotation, htest]
      exact hleaves (.attr name)
    | element name =>
      have hnext : ∀ c ∈ (step.elements d name contexts).map Context.element,
          Reaches d .document c := by
        intro c hc
        obtain ⟨p, hp, rfl⟩ := List.mem_map.1 hc
        exact reaches_of_mem_places hcontexts ((mem_stepElements hposition hcontexts).1 hp)
      have hsame : {c | c ∈ (step.elements d name contexts).map Context.element} =
          Context.element '' step.places d name {c | c ∈ contexts} := by
        ext c
        simp only [Set.mem_ofPred_eq, List.mem_map, Set.mem_image,
          mem_stepElements hposition hcontexts]
      simp only [follow, denotation, htest]
      rw [ih hpositions hnext, hsame]

theorem exists_of_isElement {test : NodeTest} (h : test.isElement = true) :
    ∃ name, test = .element name := by
  cases test with
  | element name => exact ⟨name, rfl⟩
  | text => cases h
  | attr name => cases h

/-- A path whose steps all ask for elements finds elements, each of them once. -/
theorem follow_elements {steps : List Step} (htests : ∀ step ∈ steps, step.test.isElement = true)
    {places : List Place} (hdistinct : (places.map Place.address).Nodup) :
    ∃ found : List Place, follow d steps (places.map Context.element) = found.map Match.element ∧
      (found.map Place.address).Nodup := by
  induction steps generalizing places with
  | nil =>
    refine ⟨places, ?_, hdistinct⟩
    rw [follow, List.filterMap_map]
    exact congrFun List.filterMap_eq_map places
  | cons step steps ih =>
    obtain ⟨htest, htests⟩ := List.forall_mem_cons.1 htests
    obtain ⟨name, hname⟩ := exists_of_isElement htest
    simp only [follow, hname]
    exact ih htests (nodup_stepElements _)

/-! ## Queries -/

/-- What can be read as a predicate asks for no position before the first. -/
theorem readPredicate_ne {query : String} {inner : List Char} {predicate : Predicate}
    (h : readPredicate query inner = .ok predicate) : predicate ≠ .position 0 := by
  rintro rfl
  unfold readPredicate at h
  split at h
  · cases h
  · rename_i n hne hn
    cases h
    exact hne rfl
  · split at h
    · split at h
      · cases h
      · split at h <;> cases h
    · cases h

/-- The test and the predicate of a step are read each by itself. -/
theorem readStep_eq_ok {query : String} {descendant : Bool} {raw : List Char} {step : Step}
    (h : readStep query descendant raw = .ok step) :
    (∃ text, readTest query text = .ok step.test) ∧
      (step.predicate = .always ∨ ∃ inner, readPredicate query inner = .ok step.predicate) := by
  have hrest : ∀ (text : List Char) (predicate : Predicate),
      ((readTest query text).bind fun test =>
        if predicate ≠ .always ∧ !test.isElement then .error (.predicateOnLeaf query)
        else .ok ⟨descendant, test, predicate⟩) = .ok step →
      (∃ text, readTest query text = .ok step.test) ∧ step.predicate = predicate := by
    intro text predicate hstep
    obtain ⟨test, htest, hstep⟩ := bind_eq_ok hstep
    split at hstep
    · cases hstep
    · cases hstep
      exact ⟨⟨text, htest⟩, rfl⟩
  unfold readStep at h
  dsimp only at h
  split at h
  · obtain ⟨htest, hpredicate⟩ := hrest raw .always h
    exact ⟨htest, .inl hpredicate⟩
  · split at h
    · cases h
    · obtain ⟨⟨text, predicate⟩, hbracket, hstep⟩ := bind_eq_ok h
      obtain ⟨found, hfound, heq⟩ := map_eq_ok hbracket
      cases heq
      obtain ⟨htest, hpredicate⟩ := hrest _ _ hstep
      dsimp only at hpredicate
      rw [hpredicate]
      exact ⟨htest, .inr ⟨_, hfound⟩⟩

/-- The steps of a query are read one by one. -/
theorem exists_readStep {query : String} {fuel : Nat} {first : Bool} {text : List Char}
    {steps : List Step} (h : readSteps query fuel first text = .ok steps) :
    ∀ step ∈ steps, ∃ descendant raw, readStep query descendant raw = .ok step := by
  induction fuel generalizing first text steps with
  | zero =>
    cases h
    exact nofun
  | succ fuel ih =>
    unfold readSteps at h
    dsimp only at h
    split_ifs at h
    · cases h
      exact nofun
    · cases h
      exact nofun
    · obtain ⟨step, hstep, h⟩ := bind_eq_ok h
      obtain ⟨others, hothers, heq⟩ := bind_eq_ok h
      cases heq
      exact List.forall_mem_cons.2 ⟨⟨_, _, hstep⟩, ih hothers⟩

/-- In a query that is read, every step is read by itself, and only the last one may ask for texts
or attributes. -/
theorem readQuery_eq_ok {query : String} {steps : List Step} (h : readQuery query = .ok steps) :
    (∀ step ∈ steps, ∃ query descendant raw, readStep query descendant raw = .ok step) ∧
      ∀ step ∈ steps.dropLast, step.test.isElement = true := by
  unfold readQuery at h
  dsimp only at h
  split at h
  · cases h
  · obtain ⟨found, hfound, h⟩ := bind_eq_ok h
    split at h
    · rename_i hall
      cases h
      refine ⟨fun step hstep => ?_, List.all_eq_true.1 hall⟩
      exact ⟨_, exists_readStep hfound step hstep⟩
    · cases h

/-- **What a query that can be read keeps to**: no position is before the first, and only the last
step may ask for texts or attributes. -/
theorem accepted_of_readQuery {query : String} {steps : List Step}
    (h : readQuery query = .ok steps) :
    (∀ step ∈ steps, step.predicate ≠ .position 0) ∧
      ∀ step ∈ steps.dropLast, step.test.isElement = true := by
  obtain ⟨hsteps, hleaf⟩ := readQuery_eq_ok h
  refine ⟨fun step hstep => ?_, hleaf⟩
  obtain ⟨query, descendant, raw, hread⟩ := hsteps step hstep
  obtain ⟨-, halways | ⟨inner, hinner⟩⟩ := readStep_eq_ok hread
  · rw [halways]
    exact nofun
  · exact readPredicate_ne hinner

/-- **A query selects exactly what its path denotes.** If the last step asks for elements, or there
is none, each element is selected once. -/
theorem select_denotes {query : String} {steps : List Step} (h : readQuery query = .ok steps) :
    ∃ found, d.select query = .ok found ∧ (∀ m, m ∈ found ↔ m ∈ d.denotation steps) ∧
      ((∀ step ∈ steps.getLast?, step.test.isElement = true) →
        ∃ places : List Place, found = places.map Match.element ∧
          (places.map Place.address).Nodup) := by
  obtain ⟨hpositions, htests⟩ := accepted_of_readQuery h
  refine ⟨d.selectSteps steps, by rw [Document.select, h]; rfl, ?_, ?_⟩
  · intro m
    cases steps with
    | nil => exact List.mem_singleton
    | cons step steps =>
      have hdocument : ∀ c ∈ [Context.document], Reaches d .document c := by
        intro c hc
        rw [List.mem_singleton.1 hc]
        exact .refl
      have hstart : {c | c ∈ [Context.document]} = ({.document} : Set Context) := by
        ext c
        exact List.mem_singleton
      show m ∈ follow d (step :: steps) [.document] ↔ _
      rw [mem_follow hpositions hdocument, hstart]
      rfl
  · intro hlast
    cases steps with
    | nil => exact ⟨[d.place], rfl, List.nodup_singleton _⟩
    | cons step steps =>
      have hall : ∀ other ∈ step :: steps, other.test.isElement = true := by
        obtain ⟨last, hget⟩ : ∃ last, (step :: steps).getLast? = some last :=
          ⟨_, List.getLast?_eq_some_getLast (List.cons_ne_nil _ _)⟩
        rw [← List.dropLast_append_getLast? last hget]
        exact List.forall_mem_append.2 ⟨htests, List.forall_mem_singleton.2 (hlast last hget)⟩
      obtain ⟨hfirst, hothers⟩ := List.forall_mem_cons.1 hall
      obtain ⟨name, hname⟩ := exists_of_isElement hfirst
      have hfollow : d.selectSteps (step :: steps) =
          follow d steps ((step.elements d name [.document]).map Context.element) := by
        show follow d (step :: steps) [.document] = _
        simp only [follow, hname]
      rw [hfollow]
      exact follow_elements hothers (nodup_stepElements _)

/-- Elements of one name side by side and inside of each other. -/
def nestedDocument : Document :=
  ⟨"r", .empty,
    [.element "b" .empty [], .text "x",
      .element "b" .empty [.element "b" .empty [], .element "a" .empty [], .element "b" .empty []]]⟩

/-- The second `b` of each parent is selected: one below the root, and one inside of that. -/
theorem select_denotes_seconds :
    ∃ found, nestedDocument.select "//b[2]" = .ok found ∧
      (∀ m, m ∈ found ↔ m ∈ nestedDocument.denotation [⟨true, .element "b", .position 2⟩]) ∧
      ∃ places : List Place, found = places.map Match.element ∧
        places.map Place.address = [[2], [2, 2]] := by
  have hquery : readQuery "//b[2]" = .ok [⟨true, .element "b", .position 2⟩] := by
    decide +kernel
  obtain ⟨found, hselect, hdenotes, honce⟩ := select_denotes (d := nestedDocument) hquery
  have hfound : found = nestedDocument.selectSteps [⟨true, .element "b", .position 2⟩] := by
    rw [Document.select, hquery] at hselect
    exact (Except.ok.inj hselect).symm
  refine ⟨found, hselect, hdenotes, ?_⟩
  obtain ⟨places, hplaces, -⟩ := honce (fun step hstep => by cases hstep; rfl)
  refine ⟨places, hplaces, ?_⟩
  have haddresses : (nestedDocument.selectSteps [⟨true, .element "b", .position 2⟩]).map
      (fun | .element p => p.address | _ => []) = [[2], [2, 2]] := rfl
  rw [← hfound, hplaces, List.map_map] at haddresses
  exact haddresses

end TagTemplate.Island
