import TagTemplate.Island.Read
import TagTemplate.Proofs.Island.Ways

/-!
# The order of the document

What a query selects comes in the order of the first ways to it. The order of the document is
another one: a deep element in front of a less deep one is met later by any step with `//`, and what
is inside of a context that is found early comes before all that is found from the next one. Both
can only happen where such a step finds nodes of different depths.

- `Document.Finds`: what a path selects, by way of a context that it comes to on a first way;
- `Document.Level`: what each `//` of a path finds is of one depth;
- `Way.documentOrder`: then contexts in the order of their ways are in the order of the document;
- `select_inOrder`: **what a query selects comes in the order of the first ways**, and in that of
  the document if what each `//` finds is of one depth;
- `select_not_inDocumentOrder`: without that it need not.
-/

namespace TagTemplate.Island

/-- A path finds a node on a way: the last step finds it from a context, to which the other steps
come first on the way before. Without steps it is the root element. -/
inductive Document.Finds (d : Document) : List Step → List Address → Match → Prop
  | root : d.Finds [] [] (.element d.place)
  | step {front : List Step} {way : List Address} {c : Context} {last : Step} {m : Match} :
      d.FirstWay front way c → m ∈ Island.denotation d [last] {c} →
      d.Finds (front ++ [last]) (way ++ [m.address]) m

/-- Each `//` of a path finds nodes of one depth, wherever the path goes on from there. -/
def Document.Level (d : Document) (steps : List Step) : Prop :=
  ∀ front last, front ++ [last] <+: steps → last.descendant = true →
    ∃ depth, ∀ m ∈ d.denotation (front ++ [last]), m.address.length = depth

/-- How far below what a step looks at stands what the test asks for. -/
def NodeTest.levels : NodeTest → Nat
  | .attr _ => 0
  | _ => 1

variable {d : Document} {c c' : Context} {m m' : Match} {last : Step} {steps front : List Step}
  {way way' : List Address}

/-! ## What a path denotes -/

theorem denotation_mono {contexts contexts' : Set Context} (h : contexts ⊆ contexts') :
    denotation d steps contexts ⊆ denotation d steps contexts' := by
  induction steps generalizing contexts contexts' with
  | nil =>
    rintro m ⟨p, hp, rfl⟩
    exact ⟨p, h hp, rfl⟩
  | cons step steps ih =>
    unfold denotation
    split
    · refine ih (Set.image_mono ?_)
      rintro p ⟨c, hc, hp⟩
      exact ⟨c, h hc, hp⟩
    · rintro m ⟨c, hc, hm⟩
      exact ⟨c, h hc, hm⟩

/-- What is denoted from where a way ends is denoted by the whole path. -/
theorem Document.Way.mem_denotation {rest : List Step} (h : d.Way front way c)
    (hm : m ∈ Island.denotation d rest {c}) :
    m ∈ Island.denotation d (front ++ rest) {.document} := by
  induction h generalizing rest with
  | start => exact hm
  | @step _ _ _ _ _ p _ htest hp ih =>
    rw [List.append_assoc]
    refine ih ?_
    simp only [List.singleton_append, Island.denotation, htest]
    refine denotation_mono ?_ hm
    exact Set.singleton_subset_iff.2 ⟨p, hp, rfl⟩

theorem Document.Way.mem_document_denotation (h : d.Way front way c)
    (hm : m ∈ Island.denotation d [last] {c}) : m ∈ d.denotation (front ++ [last]) := by
  have hall := h.mem_denotation hm
  cases front <;> exact hall

/-- What one step denotes from a context. -/
theorem mem_denotation_step : m ∈ denotation d [last] {c} ↔
    (∃ name p, last.test = .element name ∧ p ∈ last.places d name {c} ∧ m = .element p) ∨
      ∃ p, last.LooksAt d c (.element p) ∧ last.test.IsLeaf p m := by
  unfold denotation
  cases htest : last.test with
  | element name =>
    constructor
    · rintro ⟨p, ⟨_, hp, ⟨⟩⟩, rfl⟩
      exact .inl ⟨name, p, rfl, hp, rfl⟩
    · rintro (⟨_, p, ⟨⟩, hp, rfl⟩ | ⟨p, -, ⟨⟩⟩)
      exact ⟨p, ⟨p, hp, rfl⟩, rfl⟩
  | text => simp
  | attr name => simp

/-- Where the nodes stand that a step finds. -/
theorem position_of_found (h : m ∈ denotation d [last] {c}) :
    ∃ c' more, last.LooksAt d c c' ∧ 0 :: m.address = c'.position ++ more ∧
      more.length = last.test.levels := by
  -- an element is a step below what was looked at, a text too, an attribute belongs to it
  rcases mem_denotation_step.1 h with ⟨name, p, htest, ⟨_, rfl, c', i, hlooks, hbelow, -⟩, rfl⟩ |
    ⟨p, hlooks, hleaf⟩
  · refine ⟨c', [i], hlooks, hbelow.position, ?_⟩
    rw [htest]
    rfl
  · cases htest : last.test with
    | element name =>
      rw [htest] at hleaf
      exact hleaf.elim
    | text =>
      rw [htest] at hleaf
      obtain ⟨i, content, -, rfl⟩ := hleaf
      exact ⟨.element p, [i], hlooks, rfl, rfl⟩
    | attr name =>
      rw [htest] at hleaf
      obtain ⟨key, value, -, -, rfl⟩ := hleaf
      exact ⟨.element p, [], hlooks, (List.append_nil _).symm, rfl⟩

/-- What a step finds from a context stands below it. -/
theorem below_of_found (h : m ∈ denotation d [last] {c}) :
    ∃ more, 0 :: m.address = c.position ++ more := by
  obtain ⟨c', more, hlooks, hposition, -⟩ := position_of_found h
  have hreaches : Reaches d c c' := by
    unfold Step.LooksAt at hlooks
    split at hlooks
    · exact hlooks
    · rw [hlooks]
      exact .refl
  obtain ⟨before, hbefore⟩ := hreaches.position
  exact ⟨before ++ more, by rw [hposition, hbefore, List.append_assoc]⟩

/-! ## Depth -/

/-- A step without `//` finds nodes of one depth from contexts of one depth. -/
theorem length_of_found (hchild : last.descendant = false) (h : m ∈ denotation d [last] {c})
    (h' : m' ∈ denotation d [last] {c'}) (hlength : c.position.length = c'.position.length) :
    m.address.length = m'.address.length := by
  obtain ⟨b, more, hlooks, hposition, hmore⟩ := position_of_found h
  obtain ⟨b', more', hlooks', hposition', hmore'⟩ := position_of_found h'
  have hb : b = c := by simpa [Step.LooksAt, hchild] using hlooks
  have hb' : b' = c' := by simpa [Step.LooksAt, hchild] using hlooks'
  subst hb hb'
  have hcount := congrArg List.length hposition
  have hcount' := congrArg List.length hposition'
  simp only [List.length_cons, List.length_append] at hcount hcount'
  omega

namespace Document

theorem Level.of_concat (h : d.Level (front ++ [last])) : d.Level front :=
  fun before step hinitial => h before step (hinitial.trans (List.prefix_append _ _))

/-- What the last step of a path finds is of one depth if the contexts are. -/
theorem Level.found (h : d.Level (front ++ [last])) (hway : d.Way front way c)
    (hway' : d.Way front way' c') (hm : m ∈ Island.denotation d [last] {c})
    (hm' : m' ∈ Island.denotation d [last] {c'})
    (hlength : c.position.length = c'.position.length) :
    m.address.length = m'.address.length := by
  cases hdescendant : last.descendant with
  | false => exact length_of_found hdescendant hm hm' hlength
  | true =>
    obtain ⟨depth, hdepth⟩ := h front last (List.prefix_refl _) hdescendant
    rw [hdepth m (hway.mem_document_denotation hm), hdepth m' (hway'.mem_document_denotation hm')]

/-- A way that goes on ends at an element that the last step finds. -/
theorem Way.concat_found (h : d.Way (front ++ [last]) way c) :
    ∃ before b p, d.Way front before b ∧ .element p ∈ Island.denotation d [last] {b} ∧
      way = before ++ [p.address] ∧ c = .element p := by
  obtain ⟨before, b, name, p, hbefore, htest, hp, rfl, rfl⟩ := h.concat_inv
  exact ⟨before, b, p, hbefore, mem_denotation_step.2 (.inl ⟨name, p, htest, hp, rfl⟩), rfl, rfl⟩

/-- The contexts that a path comes to are of one depth. -/
theorem Way.length_position (hlevel : d.Level steps) (h : d.Way steps way c)
    (h' : d.Way steps way' c') : c.position.length = c'.position.length := by
  induction steps using List.reverseRecOn generalizing way way' c c' with
  | nil => rw [h.eq_document, h'.eq_document]
  | append_singleton front last ih =>
    obtain ⟨before, b, p, hbefore, hp, rfl, rfl⟩ := h.concat_found
    obtain ⟨before', b', p', hbefore', hp', rfl, rfl⟩ := h'.concat_found
    exact congrArg (· + 1)
      (hlevel.found hbefore hbefore' hp hp' (ih hlevel.of_concat hbefore hbefore'))

/-- What a last step finds is in the order of the document if the contexts are. -/
theorem Level.documentOrder (hlevel : d.Level (front ++ [last])) (h : d.Way front way c)
    (h' : d.Way front way' c') (hm : m ∈ Island.denotation d [last] {c})
    (hm' : m' ∈ Island.denotation d [last] {c'})
    (hcontexts : WayOrder way way' → DocumentOrder c.position c'.position)
    (horder : WayOrder (way ++ [m.address]) (way' ++ [m'.address])) :
    DocumentOrder m.address m'.address := by
  have hdepth := h.length_position hlevel.of_concat h'
  rcases (wayOrder_concat (h.length_eq.trans h'.length_eq.symm)).1 horder with
    hbefore | ⟨-, haddress⟩
  · obtain ⟨more, hmore⟩ := below_of_found hm
    obtain ⟨more', hmore'⟩ := below_of_found hm'
    have hpositions := lex_append hdepth (hcontexts hbefore) more more'
    rw [← hmore, ← hmore'] at hpositions
    exact List.lex_cons_iff.1 hpositions
  · rcases levelOrder_iff.1 haddress with hless | ⟨-, hless⟩
    · exact absurd (hlevel.found h h' hm hm' hdepth) hless.ne
    · exact hless

/-- **The order of ways is the order of the document**, where what each `//` finds is of one
depth. -/
theorem Way.documentOrder (hlevel : d.Level steps) (h : d.Way steps way c)
    (h' : d.Way steps way' c') (horder : WayOrder way way') :
    DocumentOrder c.position c'.position := by
  induction steps using List.reverseRecOn generalizing way way' c c' with
  | nil =>
    rw [List.length_eq_zero_iff.1 h.length_eq, List.length_eq_zero_iff.1 h'.length_eq] at horder
    cases horder
  | append_singleton front last ih =>
    obtain ⟨before, b, p, hbefore, hp, rfl, rfl⟩ := h.concat_found
    obtain ⟨before', b', p', hbefore', hp', rfl, rfl⟩ := h'.concat_found
    exact .cons (hlevel.documentOrder hbefore hbefore' hp hp' (ih hlevel.of_concat hbefore hbefore')
      horder)

/-- The first way to an element goes by the first way to what it is found from. -/
theorem FirstWay.finds {p : Place} (h : d.FirstWay (front ++ [last]) way (.element p)) :
    d.Finds (front ++ [last]) way (.element p) := by
  obtain ⟨before, b, name, _, hbefore, htest, hp, rfl, ⟨⟩⟩ := h.isWay.concat_inv
  refine .step ⟨hbefore, fun other hother => ?_⟩
    (mem_denotation_step.2 (.inl ⟨name, p, htest, hp, rfl⟩))
  rcases h.least _ (.step hother htest hp) with heq | hless
  · exact .inl (List.append_inj_left' heq rfl)
  · rcases (wayOrder_concat (hbefore.length_eq.trans hother.length_eq.symm)).1 hless with
      hless | ⟨-, hself⟩
    · exact .inr hless
    · exact absurd rfl hself.ne

/-- A path with a last step finds nothing but by this step. -/
theorem Finds.concat_inv (h : d.Finds (front ++ [last]) way m) :
    ∃ before c, d.FirstWay front before c ∧ m ∈ Island.denotation d [last] {c} ∧
      way = before ++ [m.address] := by
  generalize hsteps : front ++ [last] = steps at h
  cases h with
  | root => exact absurd hsteps (List.concat_ne_nil _ _)
  | step hbefore hm =>
    obtain ⟨rfl, hlast⟩ := List.append_inj' hsteps rfl
    cases hlast
    exact ⟨_, _, hbefore, hm, rfl⟩

theorem Finds.nil_inv (h : d.Finds [] way m) : way = [] ∧ m = .element d.place := by
  generalize hsteps : [] = steps at h
  cases h with
  | root => exact ⟨rfl, rfl⟩
  | step => exact absurd hsteps.symm (List.concat_ne_nil _ _)

/-- An element that is found is where the way ends. -/
theorem Finds.isWay {p : Place} (h : d.Finds (front ++ [last]) way (.element p)) :
    d.Way (front ++ [last]) way (.element p) := by
  obtain ⟨before, c, hbefore, hm, rfl⟩ := h.concat_inv
  rcases mem_denotation_step.1 hm with ⟨name, _, htest, hp, ⟨⟩⟩ | ⟨q, -, hleaf⟩
  · exact .step hbefore.isWay htest hp
  · revert hleaf
    cases last.test with
    | element name => exact nofun
    | text => rintro ⟨_, _, -, ⟨⟩⟩
    | attr name => rintro ⟨_, _, -, -, ⟨⟩⟩

/-- A last step that asks for elements finds elements. -/
theorem Finds.exists_element {name : String} (h : d.Finds (front ++ [last]) way m)
    (htest : last.test = .element name) : ∃ p, m = .element p := by
  obtain ⟨-, c, -, hm, -⟩ := h.concat_inv
  rcases mem_denotation_step.1 hm with ⟨-, p, -, -, rfl⟩ | ⟨p, -, hleaf⟩
  · exact ⟨p, rfl⟩
  · rw [htest] at hleaf
    exact hleaf.elim

/-- What is found in the order of the ways is in the order of the document, where what each `//`
finds is of one depth. -/
theorem Finds.documentOrder (hlevel : d.Level steps) (h : d.Finds steps way m)
    (h' : d.Finds steps way' m') (horder : way = way' ∨ WayOrder way way') :
    m.address = m'.address ∨ DocumentOrder m.address m'.address := by
  rcases List.eq_nil_or_concat steps with rfl | ⟨front, last, rfl⟩
  · rw [h.nil_inv.2, h'.nil_inv.2]
    exact .inl rfl
  · rw [List.concat_eq_append] at hlevel h h'
    obtain ⟨before, c, hbefore, hm, rfl⟩ := h.concat_inv
    obtain ⟨before', c', hbefore', hm', rfl⟩ := h'.concat_inv
    refine horder.imp (fun heq => ?_) fun hless => ?_
    · exact (List.cons.inj (List.append_inj' heq rfl).2).1
    · exact hlevel.documentOrder hbefore.isWay hbefore'.isWay hm hm'
        (hbefore.isWay.documentOrder hlevel.of_concat hbefore'.isWay) hless

end Document

/-! ## Selection -/

/-- All that a path finds, each with a way to it, in the order of these ways. The way to an element
is the first of all. -/
structure Document.Traces (d : Document) (steps : List Step)
    (traces : List (List Address × Match)) : Prop where
  finds : ∀ trace ∈ traces, d.Finds steps trace.1 trace.2
  complete : ∀ way m, d.Finds steps way m → ∃ trace ∈ traces, trace.2 = m
  first : ∀ trace ∈ traces, ∀ p, trace.2 = .element p →
    ∀ way, d.Finds steps way trace.2 → way = trace.1 ∨ WayOrder trace.1 way
  sorted : traces.Pairwise fun trace trace' => trace.1 = trace'.1 ∨ WayOrder trace.1 trace'.1

/-- A last step finds texts or attributes from one context if it denotes them from there. -/
theorem mem_leavesFound_iff (hleaf : last.test.isElement = false) (hc : Reaches d .document c) :
    m ∈ last.leavesFound d c ↔ m ∈ denotation d [last] {c} := by
  rw [mem_leavesFound hc, mem_denotation_step]
  refine ⟨.inr, ?_⟩
  rintro (⟨name, p, htest, -⟩ | hfound)
  · rw [htest] at hleaf
    cases hleaf
  · exact hfound

/-- What a last step finds from contexts in the order of their ways comes in the order of the ways,
too. -/
theorem Document.Visits.traces {visits : List (List Address × Context)}
    (h : d.Visits front visits) (hleaf : last.test.isElement = false) :
    d.Traces (front ++ [last]) (visits.flatMap fun visit =>
      (last.leavesFound d visit.2).map fun m => (visit.1 ++ [m.address], m)) := by
  have hfinds : ∀ trace ∈ visits.flatMap fun visit =>
      (last.leavesFound d visit.2).map fun m => (visit.1 ++ [m.address], m),
      d.Finds (front ++ [last]) trace.1 trace.2 := by
    intro trace htrace
    obtain ⟨visit, hvisit, htrace⟩ := List.mem_flatMap.1 htrace
    obtain ⟨m, hm, rfl⟩ := List.mem_map.1 htrace
    have hfirst := h.first visit hvisit
    exact .step hfirst ((mem_leavesFound_iff hleaf hfirst.isWay.reaches).1 hm)
  -- nothing is missed, no element is among what is found, and it is sorted within a visit and from
  -- one to the next
  refine ⟨hfinds, fun way m hm => ?_, fun trace htrace p hp => ?_,
    List.pairwise_flatMap.2 ⟨fun visit _ => ?_,
      h.sorted.imp_of_mem fun {visit visit'} hvisit hvisit' hless => ?_⟩⟩
  · obtain ⟨before, c, hbefore, hfound, -⟩ := hm.concat_inv
    obtain ⟨visit, hvisit, rfl⟩ := h.complete hbefore.isWay
    have hmem := (mem_leavesFound_iff hleaf hbefore.isWay.reaches).2 hfound
    exact ⟨_, List.mem_flatMap.2 ⟨visit, hvisit, List.mem_map_of_mem hmem⟩, rfl⟩
  · have hway := hfinds trace htrace
    rw [hp] at hway
    obtain ⟨-, -, name, -, -, htest, -⟩ := hway.isWay.concat_inv
    rw [htest] at hleaf
    cases hleaf
  · refine List.pairwise_map.2 ((pairwise_leavesFound visit.2).imp fun hless => ?_)
    rcases hless with hless | heq
    · exact .inr (.append_left _ (.rel hless) _)
    · exact .inl (by rw [heq])
  · intro a ha b hb
    obtain ⟨m, -, rfl⟩ := List.mem_map.1 ha
    obtain ⟨m', -, rfl⟩ := List.mem_map.1 hb
    exact .inr (lex_append (h.length_eq hvisit hvisit') hless _ _)

/-- **A query selects nodes in the order of the ways to them.** -/
theorem exists_traces {query : String} (h : readQuery query = .ok steps) :
    ∃ traces, d.Traces steps traces ∧ d.select query = .ok (traces.map Prod.snd) := by
  -- elements are kept once, by the first way to them, while leaves are found once for each visit
  rcases List.eq_nil_or_concat steps with rfl | ⟨front, last, rfl⟩
  · refine ⟨[([], .element d.place)], ⟨?_, ?_, ?_, List.pairwise_singleton _ _⟩, ?_⟩
    · exact List.forall_mem_singleton.2 .root
    · exact fun way m hm => ⟨_, List.mem_singleton_self _, hm.nil_inv.2.symm⟩
    · exact List.forall_mem_singleton.2 fun p _ way hway => .inl hway.nil_inv.1
    · rw [Document.select, h]
      rfl
  · rw [List.concat_eq_append] at h ⊢
    cases htest : last.test.isElement with
    | true =>
      obtain ⟨name, hname⟩ := exists_of_isElement htest
      obtain ⟨kept, hvisits, hselect⟩ := select_elements (d := d) h hname
      have hfirst : ∀ key ∈ kept, d.FirstWay (front ++ [last]) key.1 (.element key.2) :=
        fun key hkey => hvisits.first _ (List.mem_map_of_mem hkey)
      refine ⟨kept.map fun key => (key.1, .element key.2), ⟨?_, ?_, ?_, ?_⟩, ?_⟩
      · exact List.forall_mem_map.2 fun key hkey => (hfirst key hkey).finds
      · intro way m hm
        obtain ⟨p, rfl⟩ := hm.exists_element hname
        obtain ⟨visit, hvisit, hp⟩ := hvisits.complete hm.isWay
        obtain ⟨key, hkey, rfl⟩ := List.mem_map.1 hvisit
        cases hp
        exact ⟨_, List.mem_map_of_mem hkey, rfl⟩
      · exact List.forall_mem_map.2 fun key hkey p _ way hway =>
          (hfirst key hkey).least way hway.isWay
      · refine List.pairwise_map.2 ((List.pairwise_map.1 hvisits.sorted).imp ?_)
        exact .inr
      · rw [hselect, List.map_map]
        rfl
    | false =>
      obtain ⟨visits, hvisits, hselect⟩ := select_leaves (d := d) h htest
      refine ⟨_, hvisits.traces htest, ?_⟩
      rw [hselect, List.map_flatMap, List.flatMap_map]
      simp only [List.map_map]
      congr 2
      funext visit
      exact (List.map_id _).symm

/-- **What a query selects comes in the order of the first ways to it**: it is found step by step,
from one context level by level. It is in the order of the document if what each `//` finds is of
one depth. -/
theorem select_inOrder {query : String} (h : readQuery query = .ok steps) :
    ∃ traces, d.Traces steps traces ∧ d.select query = .ok (traces.map Prod.snd) ∧
      (d.Level steps → (traces.map Prod.snd).Pairwise fun m m' =>
        m.address = m'.address ∨ DocumentOrder m.address m'.address) := by
  obtain ⟨traces, htraces, hselect⟩ := exists_traces (d := d) h
  refine ⟨traces, htraces, hselect, fun hlevel => List.pairwise_map.2 ?_⟩
  refine htraces.sorted.imp_of_mem fun {trace trace'} htrace htrace' horder => ?_
  exact (htraces.finds trace htrace).documentOrder hlevel (htraces.finds trace' htrace') horder

/-- Elements that are equally deep, but below different parents. -/
def evenDocument : Document :=
  ⟨"r", .empty,
    [.element "a" .empty [.element "b" .empty [.element "x" .empty [.text "1"]]],
      .element "a" .empty [.element "b" .empty [.element "x" .empty [.text "2"]],
        .element "c" .empty [.element "x" .empty [.text "3"]]]]⟩

/-- What is denoted is of one depth if what is found is. -/
theorem exists_depth {step : Step} (depth : Nat)
    (hpositions : ∀ other ∈ step :: steps, other.predicate ≠ .position 0)
    (h : ∀ m ∈ follow d (step :: steps) [.document], m.address.length = depth) :
    ∃ depth, ∀ m ∈ d.denotation (step :: steps), m.address.length = depth := by
  refine ⟨depth, fun m hm => h m ((mem_follow hpositions ?_).2 ?_)⟩
  · exact List.forall_mem_singleton.2 .refl
  · exact denotation_mono (Set.singleton_subset_iff.2 (List.mem_singleton_self _)) hm

theorem evenDocument_level :
    evenDocument.Level [⟨true, .element "a", .always⟩, ⟨true, .element "x", .always⟩] := by
  intro front last hinitial _
  obtain hnil | ⟨rest, hsteps, hrest⟩ := List.prefix_cons_iff.1 hinitial
  · exact absurd hnil (List.concat_ne_nil _ _)
  rw [hsteps]
  obtain rfl | ⟨rest', rfl, hrest'⟩ := List.prefix_cons_iff.1 hrest
  · exact exists_depth 1 (by simp) (by decide)
  · rw [List.prefix_nil.1 hrest']
    exact exists_depth 3 (by simp) (by decide)

/-- Where all elements with a name are equally deep, they come in the order of the document. -/
theorem select_inOrder_even :
    ∃ found, evenDocument.select "//a//x" = .ok found ∧
      found.map Match.address = [[0, 0, 0], [1, 0, 0], [1, 1, 0]] ∧
      found.Pairwise fun m m' => m.address = m'.address ∨ DocumentOrder m.address m'.address := by
  have hquery : readQuery "//a//x" =
      .ok [⟨true, .element "a", .always⟩, ⟨true, .element "x", .always⟩] := by
    decide +kernel
  obtain ⟨traces, -, hselect, hordered⟩ := select_inOrder (d := evenDocument) hquery
  refine ⟨traces.map Prod.snd, hselect, ?_, hordered evenDocument_level⟩
  rw [Document.select, hquery] at hselect
  rw [← Except.ok.inj hselect]
  rfl

/-- A deep element in front of one that is less deep. -/
def deepFirst : Document :=
  ⟨"r", .empty,
    [.element "a" .empty [.element "x" .empty [.text "1"]], .element "x" .empty [.text "2"]]⟩

/-- **Not in the order of the document**: the first of two elements is selected last, because it is
deeper. -/
theorem select_not_inDocumentOrder :
    read "<r><a><x>1</x></a><x>2</x></r>".toList = .ok deepFirst ∧
      deepFirst.select "//x" = .ok [.element ⟨[1], "x", .empty, [.text "2"]⟩,
        .element ⟨[0, 0], "x", .empty, [.text "1"]⟩] ∧
      DocumentOrder [0, 0] [1] ∧ ¬([1] = [0, 0] ∨ DocumentOrder [1] [0, 0]) := by
  have hquery : readQuery "//x" = .ok [⟨true, .element "x", .always⟩] := by
    decide +kernel
  refine ⟨rfl, ?_, by decide, by decide⟩
  rw [Document.select, hquery]
  rfl

end TagTemplate.Island
