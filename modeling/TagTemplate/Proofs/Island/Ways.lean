import Mathlib.Data.List.Induction
import TagTemplate.Proofs.Island.Levels

/-!
# Ways to what is selected

A path comes to an element by way of the elements that its steps find one after the other, and often
by several ways. Ways are compared step by step, and what is found from one context comes level by
level. Following a path keeps its contexts in the order of the first ways to them.

- `Document.Way`, `Document.FirstWay`: the ways of a path, and the first of those to a context;
- `Document.Visits`: contexts in the order of their first ways;
- `Visits.next`: **one more step finds elements in the order of their first ways**;
- `select_leaves`, `select_elements`: so does a query.
-/

namespace TagTemplate.Island

/-- A way along which steps come from the document to a context: the addresses of the elements that
they find one after the other. -/
inductive Document.Way (d : Document) : List Step → List Address → Context → Prop
  | start : d.Way [] [] .document
  | step {front : List Step} {way : List Address} {c : Context} {step : Step} {name : String}
      {p : Place} : d.Way front way c → step.test = .element name → p ∈ step.places d name {c} →
      d.Way (front ++ [step]) (way ++ [p.address]) (.element p)

/-- Ways compared step by step, where the elements of a step are compared level by level. -/
abbrev WayOrder : List Address → List Address → Prop := List.Lex LevelOrder

/-- The way comes before all other ways of the steps to the context. -/
structure Document.FirstWay (d : Document) (steps : List Step) (way : List Address) (c : Context) :
    Prop where
  isWay : d.Way steps way c
  least : ∀ other, d.Way steps other c → other = way ∨ WayOrder way other

/-- All contexts that steps come to, each with its first way, in the order of these ways. -/
structure Document.Visits (d : Document) (steps : List Step)
    (visits : List (List Address × Context)) : Prop where
  first : ∀ visit ∈ visits, d.FirstWay steps visit.1 visit.2
  sorted : visits.Pairwise fun visit visit' => WayOrder visit.1 visit'.1
  complete : ∀ {way c}, d.Way steps way c → ∃ visit ∈ visits, visit.2 = c

variable {d : Document} {c c' : Context} {p : Place} {step last : Step} {name : String}
  {steps front : List Step} {way way' : List Address}

/-! ## Ways -/

theorem WayOrder.irrefl (u : List Address) : ¬WayOrder u u := by
  intro h
  induction u with
  | nil => cases h
  | cons a u ih =>
    cases h with
    | cons h => exact ih h
    | rel h => exact h.ne rfl

theorem WayOrder.trans {u v w : List Address} (h : WayOrder u v) (h' : WayOrder v w) :
    WayOrder u w := by
  refine lex_trans ?_ h h'
  exact fun _ _ _ => LevelOrder.trans

/-- How ways go on behind others of the same length. -/
theorem wayOrder_concat (hlength : way.length = way'.length) {a b : Address} :
    WayOrder (way ++ [a]) (way' ++ [b]) ↔ WayOrder way way' ∨ way = way' ∧ LevelOrder a b := by
  -- the first addresses that differ decide, since the ways have one length
  induction way generalizing way' with
  | nil =>
    cases way' with
    | nil => simp [WayOrder]
    | cons => cases hlength
  | cons x way ih =>
    cases way' with
    | nil => cases hlength
    | cons y way' =>
      have ih := ih (Nat.succ.inj hlength)
      constructor
      · intro h
        cases h with
        | cons h =>
          rcases ih.1 h with hway | ⟨rfl, hab⟩
          · exact .inl (.cons hway)
          · exact .inr ⟨rfl, hab⟩
        | rel h => exact .inl (.rel h)
      · rintro (h | ⟨heq, h⟩)
        · exact lex_append hlength h [a] [b]
        · cases heq
          exact .append_left _ (.rel h) _

namespace Document.Way

theorem length_eq (h : d.Way steps way c) : way.length = steps.length := by
  induction h with
  | start => rfl
  | step _ _ _ ih => rw [List.length_append, List.length_append, ih]; rfl

/-- What is come to is in the document. -/
theorem reaches (h : d.Way steps way c) : Reaches d .document c := by
  induction h with
  | start => exact .refl
  | step _ _ hp ih =>
    refine reaches_of_mem_places (fun c hc => ?_) hp
    rw [hc]
    exact ih

/-- The last step of a way. -/
theorem concat_inv (h : d.Way (front ++ [last]) way c) :
    ∃ before b name p, d.Way front before b ∧ last.test = .element name ∧
      p ∈ last.places d name {b} ∧ way = before ++ [p.address] ∧ c = .element p := by
  generalize hsteps : front ++ [last] = steps at h
  cases h with
  | start => exact absurd hsteps (List.concat_ne_nil _ _)
  | step hway htest hp =>
    obtain ⟨rfl, hlast⟩ := List.append_inj' hsteps rfl
    cases hlast
    exact ⟨_, _, _, _, hway, htest, hp, rfl, rfl⟩

/-- Without steps nothing but the document itself is come to. -/
theorem eq_document (h : d.Way [] way c) : c = .document := by
  generalize hsteps : [] = steps at h
  cases h with
  | start => rfl
  | step => exact absurd hsteps.symm (List.concat_ne_nil _ _)

/-- A way tells where it ends. -/
theorem unique (h : d.Way steps way c) (h' : d.Way steps way c') : c = c' := by
  rcases List.eq_nil_or_concat steps with rfl | ⟨front, last, rfl⟩
  · rw [h.eq_document, h'.eq_document]
  · rw [List.concat_eq_append] at h h'
    have hreaches := h.reaches
    have hreaches' := h'.reaches
    obtain ⟨before, b, name, p, -, -, -, rfl, rfl⟩ := h.concat_inv
    obtain ⟨before', b', name', p', -, -, -, hway, rfl⟩ := h'.concat_inv
    obtain ⟨-, haddress⟩ := List.append_inj' hway rfl
    rw [eq_of_address_eq hreaches hreaches' (List.cons.inj haddress).1]

end Document.Way

/-! ## One more step -/

/-- An element is found from one context if it is denoted from there. -/
theorem mem_elementsFound (hposition : step.predicate ≠ .position 0)
    (hc : Reaches d .document c) :
    p ∈ step.elementsFound d name c ↔ p ∈ step.places d name {c} := by
  unfold Step.elementsFound
  rw [List.mem_flatMap]
  constructor
  · rintro ⟨c', hscope, hp⟩
    obtain ⟨i, hp⟩ := (mem_elementsBelow hposition).1 hp
    exact ⟨c, rfl, c', i, (mem_scopes hc).1 hscope, hp⟩
  · rintro ⟨_, rfl, c', i, hlooks, hp⟩
    exact ⟨c', (mem_scopes hc).2 hlooks, (mem_elementsBelow hposition).2 ⟨i, hp⟩⟩

/-- A text or attribute is found from one context if it is at an element that the step looks at. -/
theorem mem_leavesFound {m : Match} (hc : Reaches d .document c) :
    m ∈ step.leavesFound d c ↔ ∃ p, step.LooksAt d c (.element p) ∧ step.test.IsLeaf p m := by
  unfold Step.leavesFound
  rw [List.mem_flatMap]
  constructor
  · rintro ⟨c', hscope, hm⟩
    obtain ⟨p, rfl, hleaf⟩ := mem_leaves.1 hm
    exact ⟨p, (mem_scopes hc).1 hscope, hleaf⟩
  · rintro ⟨p, hlooks, hleaf⟩
    exact ⟨.element p, (mem_scopes hc).2 hlooks, mem_leaves.2 ⟨p, rfl, hleaf⟩⟩

theorem addPlace_of_known {found : List Place} {q : Place} (hp : p ∈ found)
    (haddress : p.address = q.address) : addPlace found q = found :=
  if_pos (List.any_eq_true.2 ⟨p, hp, decide_eq_true haddress⟩)

theorem addPlace_of_new {found : List Place} {q : Place} (h : ∀ p ∈ found, p.address ≠ q.address) :
    addPlace found q = found ++ [q] := by
  refine if_neg fun hany => ?_
  obtain ⟨p, hp, haddress⟩ := List.any_eq_true.1 hany
  exact h p hp (of_decide_eq_true haddress)

/-- Of places in the order of their keys, those that are kept have the first keys of their
addresses. -/
theorem exists_kept {keyed : List (List Address × Place)}
    (h : keyed.Pairwise fun a b => WayOrder a.1 b.1) :
    ∃ kept : List (List Address × Place),
      kept.map Prod.snd = (keyed.map Prod.snd).foldl addPlace [] ∧ kept.Sublist keyed ∧
      (∀ b ∈ keyed, ∃ a ∈ kept, a.2.address = b.2.address) ∧
      ∀ a ∈ kept, ∀ b ∈ keyed, b.2.address = a.2.address → b = a ∨ WayOrder a.1 b.1 := by
  -- a place is looked at behind all others, so that the keys before it are less
  induction keyed using List.reverseRecOn with
  | nil => exact ⟨[], rfl, .slnil, nofun, nofun⟩
  | append_singleton keyed last ih =>
    obtain ⟨hkeyed, -, hlast⟩ := List.pairwise_append.1 h
    obtain ⟨kept, hkept, hsublist, hall, hleast⟩ := ih hkeyed
    have hless : ∀ a ∈ keyed, WayOrder a.1 last.1 := fun a ha => hlast a ha last (by simp)
    have hfirst : ∀ a ∈ kept, ∀ b ∈ keyed ++ [last], b.2.address = a.2.address →
        b = a ∨ WayOrder a.1 b.1 := by
      refine fun a ha => List.forall_mem_append.2 ⟨hleast a ha, ?_⟩
      exact List.forall_mem_singleton.2 fun _ => .inr (hless a (hsublist.subset ha))
    rw [List.map_append, List.foldl_append, ← hkept, List.map_singleton, List.foldl_cons,
      List.foldl_nil]
    by_cases hold : ∃ a ∈ kept, a.2.address = last.2.address
    · obtain ⟨a, ha, haddress⟩ := hold
      refine ⟨kept, (addPlace_of_known (List.mem_map_of_mem ha) haddress).symm,
        hsublist.trans (List.sublist_append_left _ _), ?_, hfirst⟩
      exact List.forall_mem_append.2 ⟨hall, List.forall_mem_singleton.2 ⟨a, ha, haddress⟩⟩
    · have hnew : ∀ a ∈ kept, a.2.address ≠ last.2.address :=
        fun a ha haddress => hold ⟨a, ha, haddress⟩
      refine ⟨kept ++ [last], ?_, hsublist.append (.refl _), ?_, ?_⟩
      · rw [List.map_append, addPlace_of_new (List.forall_mem_map.2 hnew)]
        rfl
      · refine List.forall_mem_append.2 ⟨fun b hb => ?_, ?_⟩
        · obtain ⟨a, ha, haddress⟩ := hall b hb
          exact ⟨a, List.mem_append_left _ ha, haddress⟩
        · exact List.forall_mem_singleton.2 ⟨last, by simp, rfl⟩
      · refine List.forall_mem_append.2 ⟨hfirst, List.forall_mem_singleton.2 ?_⟩
        refine List.forall_mem_append.2 ⟨fun b hb haddress => ?_, ?_⟩
        · obtain ⟨a, ha, hsame⟩ := hall b hb
          exact absurd (hsame.trans haddress) (hnew a ha)
        · exact List.forall_mem_singleton.2 fun _ => .inl rfl

/-- The places that a step finds from contexts with ways to them, each with its way. -/
def keyedPlaces (d : Document) (step : Step) (name : String)
    (visits : List (List Address × Context)) : List (List Address × Place) :=
  visits.flatMap fun visit =>
    (step.elementsFound d name visit.2).map fun p => (visit.1 ++ [p.address], p)

theorem mem_keyedPlaces {visits : List (List Address × Context)} {key : List Address × Place} :
    key ∈ keyedPlaces d step name visits ↔ ∃ visit ∈ visits,
      key.2 ∈ step.elementsFound d name visit.2 ∧ key.1 = visit.1 ++ [key.2.address] := by
  obtain ⟨way, p⟩ := key
  simp only [keyedPlaces, List.mem_flatMap, List.mem_map, Prod.mk.injEq]
  constructor
  · rintro ⟨visit, hvisit, _, hp, rfl, rfl⟩
    exact ⟨visit, hvisit, hp, rfl⟩
  · rintro ⟨visit, hvisit, hp, rfl⟩
    exact ⟨visit, hvisit, p, hp, rfl, rfl⟩

theorem map_keyedPlaces (visits : List (List Address × Context)) :
    (keyedPlaces d step name visits).map Prod.snd =
      ((visits.map Prod.snd).flatMap (step.scopes d)).flatMap (step.elementsBelow d name) := by
  rw [keyedPlaces, List.map_flatMap, List.flatMap_assoc, List.flatMap_map]
  simp only [List.map_map]
  congr 1
  funext visit
  exact List.map_id _

namespace Document.Visits

variable {visits : List (List Address × Context)}

/-- Before the first step there is the document. -/
theorem start (d : Document) : d.Visits [] [([], .document)] where
  first visit hvisit := by
    rw [List.mem_singleton.1 hvisit]
    refine ⟨.start, fun other hother => .inl ?_⟩
    exact List.length_eq_zero_iff.1 hother.length_eq
  sorted := List.pairwise_singleton _ _
  complete hway := ⟨_, List.mem_singleton_self _, hway.eq_document.symm⟩

/-- All ways are as long as the steps are many. -/
theorem length_eq (h : d.Visits steps visits) {visit visit' : List Address × Context}
    (hvisit : visit ∈ visits) (hvisit' : visit' ∈ visits) : visit.1.length = visit'.1.length :=
  (h.first visit hvisit).isWay.length_eq.trans (h.first visit' hvisit').isWay.length_eq.symm

theorem reaches (h : d.Visits steps visits) {visit : List Address × Context}
    (hvisit : visit ∈ visits) : Reaches d .document visit.2 :=
  (h.first visit hvisit).isWay.reaches

/-- What is found from contexts in the order of their ways is in this order, too. -/
theorem pairwise_keyedPlaces (h : d.Visits steps visits) (step : Step) (name : String) :
    (keyedPlaces d step name visits).Pairwise fun a b => WayOrder a.1 b.1 := by
  refine List.pairwise_flatMap.2 ⟨fun visit _ => ?_, h.sorted.imp_of_mem ?_⟩
  · refine List.pairwise_map.2 ((pairwise_elementsFound visit.2).imp fun hpq => ?_)
    exact .append_left _ (.rel hpq) _
  · intro visit visit' hvisit hvisit' hbefore a ha b hb
    obtain ⟨p, -, rfl⟩ := List.mem_map.1 ha
    obtain ⟨q, -, rfl⟩ := List.mem_map.1 hb
    exact lex_append (h.length_eq hvisit hvisit') hbefore _ _

section Next

variable (h : d.Visits front visits) (htest : step.test = .element name)
  (hposition : step.predicate ≠ .position 0)

include h htest hposition

/-- What is found from a context is come to on the way to it and one step more. -/
theorem way_of_mem_keyedPlaces {key : List Address × Place}
    (hkey : key ∈ keyedPlaces d step name visits) :
    d.Way (front ++ [step]) key.1 (.element key.2) := by
  obtain ⟨visit, hvisit, hp, hway⟩ := mem_keyedPlaces.1 hkey
  rw [hway]
  exact .step (h.first visit hvisit).isWay htest
    ((mem_elementsFound hposition (h.reaches hvisit)).1 hp)

/-- No way comes before the one by which its end is found: it goes through a context that was come
to, and this one has a first way. -/
theorem exists_keyedPlace (hp : d.Way (front ++ [step]) way (.element p)) :
    ∃ key ∈ keyedPlaces d step name visits, key.2 = p ∧ (way = key.1 ∨ WayOrder key.1 way) := by
  obtain ⟨before, b, name', q, hbefore, htest', hq, rfl, hpq⟩ := hp.concat_inv
  cases hpq
  cases htest.symm.trans htest'
  obtain ⟨visit, hvisit, rfl⟩ := h.complete hbefore
  refine ⟨(visit.1 ++ [p.address], p), mem_keyedPlaces.2 ⟨visit, hvisit,
    (mem_elementsFound hposition (h.reaches hvisit)).2 hq, rfl⟩, rfl, ?_⟩
  rcases (h.first visit hvisit).least before hbefore with rfl | hless
  · exact .inl rfl
  · right
    refine lex_append ?_ hless _ _
    rw [(h.first visit hvisit).isWay.length_eq, hbefore.length_eq]

/-- **One more step that asks for elements** finds them in the order of their first ways. -/
theorem next : ∃ kept : List (List Address × Place),
    d.Visits (front ++ [step]) (kept.map fun key => (key.1, .element key.2)) ∧
      kept.map Prod.snd = step.elements d name (visits.map Prod.snd) := by
  obtain ⟨kept, hkept, hsublist, hall, hleast⟩ := exists_kept (h.pairwise_keyedPlaces step name)
  have hway := fun key (hkey : key ∈ keyedPlaces d step name visits) =>
    h.way_of_mem_keyedPlaces htest hposition hkey
  -- the ways to a place are sorted, so the one that is kept of them is the least
  refine ⟨kept, ⟨?_, ?_, ?_⟩, ?_⟩
  · refine List.forall_mem_map.2 fun key hkey => ⟨hway key (hsublist.subset hkey), ?_⟩
    intro other hother
    obtain ⟨key', hkey', hsame, hafter⟩ := h.exists_keyedPlace htest hposition hother
    rcases hleast key hkey key' hkey' (by rw [hsame]) with rfl | hless
    · exact hafter
    · rcases hafter with rfl | hafter
      · exact .inr hless
      · exact .inr (hless.trans hafter)
  · exact List.pairwise_map.2 ((h.pairwise_keyedPlaces step name).sublist hsublist)
  · intro way c hc
    obtain ⟨-, -, -, p, -, -, -, -, rfl⟩ := hc.concat_inv
    obtain ⟨key, hkey, rfl, -⟩ := h.exists_keyedPlace htest hposition hc
    obtain ⟨key', hkey', haddress⟩ := hall key hkey
    refine ⟨_, List.mem_map_of_mem hkey', ?_⟩
    exact congrArg Context.element (eq_of_address_eq
      (hway key' (hsublist.subset hkey')).reaches (hway key hkey).reaches haddress)
  · rw [Step.elements, ← map_keyedPlaces, ← hkept]

end Next

end Document.Visits

/-! ## Paths -/

/-- Steps that ask for elements come to contexts in the order of their first ways, and what stands
behind them goes on from there. -/
theorem follow_visits {visits : List (List Address × Context)} (h : d.Visits front visits)
    (htests : ∀ step ∈ steps, step.test.isElement = true)
    (hpositions : ∀ step ∈ steps, step.predicate ≠ .position 0) (rest : List Step) :
    ∃ later, d.Visits (front ++ steps) later ∧
      follow d (steps ++ rest) (visits.map Prod.snd) = follow d rest (later.map Prod.snd) := by
  induction steps generalizing front visits with
  | nil => exact ⟨visits, (List.append_nil front).symm ▸ h, rfl⟩
  | cons step steps ih =>
    obtain ⟨htest, htests⟩ := List.forall_mem_cons.1 htests
    obtain ⟨hposition, hpositions⟩ := List.forall_mem_cons.1 hpositions
    obtain ⟨name, hname⟩ := exists_of_isElement htest
    obtain ⟨kept, hvisits, hkept⟩ := h.next hname hposition
    obtain ⟨later, hlater, hfollow⟩ := ih hvisits htests hpositions
    refine ⟨later, by rwa [List.append_assoc] at hlater, ?_⟩
    rw [← hfollow, List.cons_append]
    simp only [follow, hname]
    rw [← hkept, List.map_map, List.map_map]
    rfl

/-- A last step that asks for texts or attributes finds them from the contexts before it. -/
theorem select_leaves {query : String} (h : readQuery query = .ok (front ++ [last]))
    (hleaf : last.test.isElement = false) :
    ∃ visits, d.Visits front visits ∧
      d.select query = .ok ((visits.map Prod.snd).flatMap (last.leavesFound d)) := by
  obtain ⟨hpositions, htests⟩ := accepted_of_readQuery h
  rw [List.dropLast_concat] at htests
  obtain ⟨visits, hvisits, hfollow⟩ := follow_visits (.start d) htests
    (fun step hstep => hpositions step (List.mem_append_left _ hstep)) [last]
  refine ⟨visits, hvisits, ?_⟩
  have hselect : d.selectSteps (front ++ [last]) = follow d (front ++ [last]) [.document] :=
    if_neg (List.concat_ne_nil _ _)
  -- leaves are not looked through for repetitions
  have hlast : ∀ contexts, follow d [last] contexts = contexts.flatMap (last.leavesFound d) := by
    intro contexts
    unfold Step.leavesFound
    rw [follow, ← List.flatMap_assoc]
    cases htest : last.test with
    | element name =>
      rw [htest] at hleaf
      cases hleaf
    | text => exact List.append_nil _
    | attr name => exact List.append_nil _
  rw [Document.select, h]
  show Except.ok (d.selectSteps (front ++ [last])) = _
  rw [hselect, ← hlast]
  exact congrArg Except.ok hfollow

/-- A path whose steps all ask for elements finds them in the order of their first ways. -/
theorem select_elements {query : String} (h : readQuery query = .ok (front ++ [last]))
    (htest : last.test = .element name) :
    ∃ kept : List (List Address × Place),
      d.Visits (front ++ [last]) (kept.map fun key => (key.1, .element key.2)) ∧
        d.select query = .ok (kept.map fun key => .element key.2) := by
  obtain ⟨hpositions, htests⟩ := accepted_of_readQuery h
  rw [List.dropLast_concat] at htests
  obtain ⟨hfront, hlast⟩ := List.forall_mem_append.1 hpositions
  obtain ⟨visits, hvisits, hfollow⟩ := follow_visits (.start d) htests hfront [last]
  obtain ⟨kept, hkeyed, hkept⟩ := hvisits.next htest (hlast last (List.mem_singleton_self _))
  refine ⟨kept, hkeyed, ?_⟩
  have hselect : d.selectSteps (front ++ [last]) = follow d (front ++ [last]) [.document] :=
    if_neg (List.concat_ne_nil _ _)
  have hplaces : follow d [last] (visits.map Prod.snd) =
      (kept.map Prod.snd).map Match.element := by
    simp only [follow, htest]
    rw [← hkept, List.filterMap_map]
    exact congrFun List.filterMap_eq_map _
  rw [Document.select, h]
  show Except.ok (d.selectSteps (front ++ [last])) = _
  rw [hselect]
  refine (congrArg Except.ok (hfollow.trans hplaces)).trans ?_
  rw [List.map_map]
  rfl

end TagTemplate.Island
