import Mathlib.Data.Set.Card
import TagTemplate.Island.Read
import TagTemplate.Proofs.Except
import TagTemplate.Proofs.Island.Ways
import TagTemplate.Proofs.OrderedMap

/-!
# What is selected more than once

Elements are selected once, but nothing looks for texts and attributes that were selected before. A
last step with `//` finds what is inside of each of its contexts, so that a text inside of two of
them is selected twice.

- `Node.Keyed`: nodes whose elements have no attribute twice, with `keyed_read` for those that are
  read;
- `nodup_leavesFound`: from one context a last step finds nothing twice;
- `Document.lookers`: the contexts that look at an element;
- `select_counts`: **a text or attribute is selected as often as there are contexts that look at its
  element**;
- `select_repeats_text`: which can be twice.
-/

namespace TagTemplate.Island

open TagTemplate.Markup

/-- No element of a node has an attribute twice. -/
inductive Node.Keyed : Node → Prop
  | text {content : String} : Keyed (.text content)
  | element {name : String} {attributes : OrderedMap String} {children : List Node} :
      attributes.Distinct → (∀ n ∈ children, Keyed n) → Keyed (.element name attributes children)

/-- The contexts that steps come to and from which a last step looks at an element. -/
def Document.lookers (d : Document) (front : List Step) (last : Step) (p : Place) : Set Context :=
  {c | (∃ way, d.Way front way c) ∧ last.LooksAt d c (.element p)}

variable {d : Document} {c : Context} {p q : Place} {m : Match} {last : Step} {front : List Step}

/-! ## Attributes -/

/-- No element that is open, none in it and none in the root has an attribute twice. -/
structure Progress.Keyed (progress : Progress) : Prop where
  opened : ∀ frame ∈ progress.opened, frame.attributes.Distinct ∧ ∀ n ∈ frame.children, n.Keyed
  root : ∀ document, progress.root = some document → document.root.Keyed

namespace Progress.Keyed

variable {progress after : Progress}

theorem text (h : progress.Keyed) {content : List Char} (ht : progress.text content = .ok after) :
    after.Keyed := by
  unfold Progress.text at ht
  split at ht
  · rename_i frame opened hopened
    cases ht
    have hframes := h.opened
    rw [hopened] at hframes
    obtain ⟨⟨hattributes, hchildren⟩, hothers⟩ := List.forall_mem_cons.1 hframes
    refine ⟨List.forall_mem_cons.2 ⟨⟨hattributes, ?_⟩, hothers⟩, h.root⟩
    -- text is joined to the text in front of it, or it is a new child
    show ∀ n ∈ addText (String.ofList content) frame.children, n.Keyed
    unfold addText
    split
    · rename_i before children heq
      rw [heq] at hchildren
      exact List.forall_mem_cons.2 ⟨.text, (List.forall_mem_cons.1 hchildren).2⟩
    · exact List.forall_mem_cons.2 ⟨.text, hchildren⟩
  · split at ht
    · cases ht
      exact h
    · cases ht

theorem start (h : progress.Keyed) {tag : Tag} (ht : progress.open tag = .ok after) :
    after.Keyed := by
  unfold Progress.open at ht
  split at ht
  · cases ht
  · cases ht
    exact ⟨List.forall_mem_cons.2 ⟨⟨OrderedMap.distinct_ofList _, nofun⟩, h.opened⟩, h.root⟩

theorem close (h : progress.Keyed) (ht : progress.close = .ok after) : after.Keyed := by
  -- the children of a frame are in reverse until it is closed
  have hframe : ∀ frame ∈ progress.opened,
      (Node.element frame.name frame.attributes frame.children.reverse).Keyed := by
    intro frame hframe
    obtain ⟨hattributes, hchildren⟩ := h.opened frame hframe
    exact .element hattributes fun n hn => hchildren n (List.mem_reverse.1 hn)
  unfold Progress.close at ht
  split at ht
  · cases ht
  · rename_i frame outer opened hopened
    cases ht
    have hframes := h.opened
    rw [hopened] at hframes hframe
    obtain ⟨-, ⟨hattributes, hchildren⟩, hothers⟩ := List.forall_mem_cons.1 hframes |>.imp_right
      List.forall_mem_cons.1
    refine ⟨List.forall_mem_cons.2 ⟨⟨hattributes, ?_⟩, hothers⟩, h.root⟩
    exact List.forall_mem_cons.2 ⟨hframe frame List.mem_cons_self, hchildren⟩
  · rename_i frame hopened
    split at ht
    · cases ht
    · cases ht
      rw [hopened] at hframe
      refine ⟨nofun, fun document hdocument => ?_⟩
      cases hdocument
      exact hframe frame (List.mem_singleton_self _)

theorem add (h : progress.Keyed) {e : Event} (ht : progress.add e = .ok after) : after.Keyed := by
  cases e with
  | start tag => exact h.start ht
  | empty tag =>
    obtain ⟨between, hopen, hclose⟩ := bind_eq_ok ht
    exact (h.start hopen).close hclose
  | stop => exact h.close ht
  | text content => exact h.text ht
  | literal content => exact h.text ht
  | reference name =>
    simp only [Progress.add] at ht
    split at ht
    · exact h.text ht
    · cases ht
  | aside =>
    cases ht
    exact h

theorem addAll (h : progress.Keyed) {source : List Char} {events : List Located}
    (ht : progress.addAll source events = .ok after) : after.Keyed := by
  induction events generalizing progress with
  | nil =>
    cases ht
    exact h
  | cons e events ih =>
    unfold Progress.addAll at ht
    split at ht
    · cases ht
    · rename_i between hadd
      exact ih (h.add hadd) ht

end Progress.Keyed

/-- **What is read has no attribute twice.** -/
theorem keyed_read {source : List Char} (h : read source = .ok d) : d.root.Keyed := by
  unfold read at h
  generalize Markup.events source = found at h
  obtain ⟨events, failure⟩ := found
  obtain ⟨progress, hprogress, h⟩ := bind_eq_ok h
  have hstart : Progress.Keyed ⟨[], none⟩ := by
    refine ⟨List.forall_mem_nil _, fun _ hroot => ?_⟩
    cases hroot
  have hkeyed := hstart.addAll hprogress
  cases failure with
  | some failure => cases h
  | none =>
    obtain ⟨opened, root⟩ := progress
    cases opened with
    | cons frame opened => cases h
    | nil =>
      cases root with
      | none => cases h
      | some document =>
        cases h
        exact hkeyed.root d rfl

theorem keyed_readIsland {root : Option (List Char)} {source : List Char}
    (h : readIsland root source = .ok d) : d.root.Keyed := by
  unfold readIsland at h
  split at h
  · exact keyed_read h
  · split at h
    · rename_i hread
      cases h
      exact keyed_read hread
    · exact keyed_read h

/-- No element that is reached has an attribute twice. -/
theorem Node.Keyed.reached (h : d.root.Keyed) (hp : Reaches d .document (.element p)) :
    p.attributes.Distinct := by
  have hall : ∀ c, Reaches d .document c → ∀ n ∈ c.nodes d, n.Keyed := by
    intro c hc
    induction hc with
    | refl => exact List.forall_mem_singleton.2 h
    | tail _ hbelow ih =>
      obtain ⟨i, q, hq, rfl⟩ := hbelow
      cases ih _ (List.mem_of_getElem? hq.node) with
      | element _ hchildren => exact hchildren
  cases Relation.ReflTransGen.cases_tail hp with
  | inl heq => cases heq
  | inr h =>
    obtain ⟨c, hc, i, _, hbelow, ⟨⟩⟩ := h
    cases hall c hc _ (List.mem_of_getElem? hbelow.node) with
    | element hattributes => exact hattributes

/-! ## From one context -/

/-- A text or attribute is at one element. -/
theorem eq_of_isLeaf {test : NodeTest} (hp : Reaches d .document (.element p))
    (hq : Reaches d .document (.element q)) (h : test.IsLeaf p m) (h' : test.IsLeaf q m) :
    p = q := by
  refine eq_of_address_eq hp hq ?_
  cases test with
  | element name => exact h.elim
  | text =>
    obtain ⟨i, content, -, rfl⟩ := h
    obtain ⟨j, content', -, heq⟩ := h'
    exact List.append_inj_left' (Match.text.inj heq).1 rfl
  | attr name =>
    obtain ⟨key, value, -, -, rfl⟩ := h
    obtain ⟨key', value', -, -, heq⟩ := h'
    exact (Match.attr.inj heq).1

/-- At one element a last step finds nothing twice. -/
theorem nodup_leaves (test : NodeTest) (h : p.attributes.Distinct) :
    (test.leaves (.element p)).Nodup := by
  cases test with
  | element name => exact .nil
  | text =>
    refine List.Nodup.of_map Match.address ?_
    exact ((pairwise_indices p.address 0 p.children.length).sublist
      (sublist_textsFrom p.address 0 p.children)).imp LevelOrder.ne
  | attr name =>
    refine (List.Nodup.filter _ (List.Nodup.of_map Prod.fst h)).map ?_
    rintro ⟨key, value⟩ ⟨key', value'⟩ ⟨⟩
    rfl

/-- **From one context a last step finds nothing twice.** -/
theorem nodup_leavesFound (hkeyed : d.root.Keyed) (hc : Reaches d .document c) :
    (last.leavesFound d c).Nodup := by
  refine List.nodup_flatMap.2 ⟨fun c' hc' => ?_, (nodup_scopes last c).imp_of_mem ?_⟩
  · cases c' with
    | document => exact .nil
    | element p =>
      exact nodup_leaves _ (hkeyed.reached (((mem_scopes hc).1 hc').reaches hc))
  · intro c₁ c₂ hc₁ hc₂ hne m hm hm'
    obtain ⟨p, rfl, hleaf⟩ := mem_leaves.1 hm
    obtain ⟨q, rfl, hleaf'⟩ := mem_leaves.1 hm'
    have hp := ((mem_scopes hc).1 hc₁).reaches hc
    have hq := ((mem_scopes hc).1 hc₂).reaches hc
    exact hne (congrArg Context.element (eq_of_isLeaf hp hq hleaf hleaf'))

/-! ## From all contexts -/

open Classical in
/-- What comes from lists without repetition comes as often as there are lists with it. -/
theorem count_flatMap_of_nodup {α β : Type} {l : List α} {f : α → List β} {b : β}
    (h : ∀ a ∈ l, (f a).Nodup) : (l.flatMap f).count b = l.countP fun a => b ∈ f a := by
  induction l with
  | nil => rfl
  | cons a l ih =>
    obtain ⟨ha, hl⟩ := List.forall_mem_cons.1 h
    rw [List.flatMap_cons, List.count_append, ih hl, ha.count, List.countP_cons, Nat.add_comm]
    simp only [decide_eq_true_eq]

namespace Document.Visits

variable {visits : List (List Address × Context)}

/-- No context is visited twice. -/
theorem nodup (h : d.Visits front visits) : (visits.map Prod.snd).Nodup := by
  refine List.pairwise_map.2 (h.sorted.imp_of_mem fun {visit visit'} hvisit hvisit' hless heq => ?_)
  have hway := (h.first visit hvisit).isWay
  rw [heq] at hway
  rcases (h.first visit' hvisit').least _ hway with hsame | hless'
  · rw [hsame] at hless
    exact WayOrder.irrefl _ hless
  · exact WayOrder.irrefl _ (hless.trans hless')

theorem mem_contexts (h : d.Visits front visits) :
    c ∈ visits.map Prod.snd ↔ ∃ way, d.Way front way c := by
  rw [List.mem_map]
  constructor
  · rintro ⟨visit, hvisit, rfl⟩
    exact ⟨visit.1, (h.first visit hvisit).isWay⟩
  · rintro ⟨way, hway⟩
    exact h.complete hway

theorem finite_lookers (h : d.Visits front visits) (last : Step) (p : Place) :
    (d.lookers front last p).Finite :=
  (List.finite_toSet (visits.map Prod.snd)).subset fun _ hc => h.mem_contexts.2 hc.1

open Classical in
/-- A text or attribute is found as often as there are contexts that look at its element. -/
theorem count_leavesFound (h : d.Visits front visits) (hkeyed : d.root.Keyed)
    (hp : Reaches d .document (.element p)) (hleaf : last.test.IsLeaf p m) :
    ((visits.map Prod.snd).flatMap (last.leavesFound d)).count m =
      (d.lookers front last p).ncard := by
  -- a leaf is one of a single element, so it is found exactly where that one is looked at
  have hmem : ∀ c ∈ visits.map Prod.snd,
      m ∈ last.leavesFound d c ↔ last.LooksAt d c (.element p) := by
    intro c hc
    obtain ⟨way, hway⟩ := h.mem_contexts.1 hc
    rw [mem_leavesFound hway.reaches]
    constructor
    · rintro ⟨q, hlooks, hq⟩
      rwa [eq_of_isLeaf hp (hlooks.reaches hway.reaches) hleaf hq]
    · exact fun hlooks => ⟨p, hlooks, hleaf⟩
  have hlookers : d.lookers front last p =
      ((visits.map Prod.snd).filter fun c => m ∈ last.leavesFound d c).toFinset := by
    ext c
    rw [List.coe_toFinset, Set.mem_ofPred_eq, List.mem_filter, h.mem_contexts, decide_eq_true_iff]
    exact and_congr_right fun hway => (hmem c (h.mem_contexts.2 hway)).symm
  rw [hlookers, Set.ncard_coe_finset, List.toFinset_card_of_nodup (h.nodup.filter _),
    ← List.countP_eq_length_filter]
  refine count_flatMap_of_nodup fun c hc => ?_
  obtain ⟨way, hway⟩ := h.mem_contexts.1 hc
  exact nodup_leavesFound hkeyed hway.reaches

/-- Nothing is found twice exactly if no two contexts look at one element that has a text or
attribute. -/
theorem nodup_flatMap_iff (h : d.Visits front visits) (hkeyed : d.root.Keyed) (last : Step) :
    ((visits.map Prod.snd).flatMap (last.leavesFound d)).Nodup ↔
      ∀ p m, Reaches d .document (.element p) → last.test.IsLeaf p m →
        (d.lookers front last p).Subsingleton := by
  classical
  have hle : ∀ p, (d.lookers front last p).ncard ≤ 1 ↔ (d.lookers front last p).Subsingleton := by
    intro p
    have hfinite := (h.finite_lookers last p).to_subtype
    exact Set.ncard_le_one_iff_subsingleton
  rw [List.nodup_iff_count_le_one]
  constructor
  · intro hall p m hp hm
    rw [← hle, ← h.count_leavesFound hkeyed hp hm]
    exact hall m
  · intro hall m
    by_cases hm : m ∈ (visits.map Prod.snd).flatMap (last.leavesFound d)
    · obtain ⟨c, hc, hfound⟩ := List.mem_flatMap.1 hm
      obtain ⟨way, hway⟩ := h.mem_contexts.1 hc
      obtain ⟨p, hlooks, hleaf⟩ := (mem_leavesFound hway.reaches).1 hfound
      have hp := hlooks.reaches hway.reaches
      rw [h.count_leavesFound hkeyed hp hleaf]
      exact (hle p).2 (hall p m hp hleaf)
    · rw [List.count_eq_zero_of_not_mem hm]
      exact Nat.zero_le 1

end Document.Visits

open Classical in
/-- **A text or attribute is selected as often as there are contexts that look at its element**, of
those that the steps before come to. So nothing is selected twice exactly if no two of them look at
one element that has such a node, and never by a last step with `/`. -/
theorem select_counts {query : String} (h : readQuery query = .ok (front ++ [last]))
    (hleaf : last.test.isElement = false) (hkeyed : d.root.Keyed) :
    ∃ found, d.select query = .ok found ∧
      (∀ p m, Reaches d .document (.element p) → last.test.IsLeaf p m →
        found.count m = (d.lookers front last p).ncard) ∧
      (found.Nodup ↔ ∀ p m, Reaches d .document (.element p) → last.test.IsLeaf p m →
        (d.lookers front last p).Subsingleton) ∧
      (last.descendant = false → found.Nodup) := by
  obtain ⟨visits, hvisits, hselect⟩ := select_leaves (d := d) h hleaf
  have hnodup := hvisits.nodup_flatMap_iff hkeyed last
  refine ⟨_, hselect, fun p m hp hm => hvisits.count_leavesFound hkeyed hp hm, hnodup, ?_⟩
  intro hchild
  have hself : ∀ c p, last.LooksAt d c (.element p) → .element p = c := by
    intro c p hlooks
    simpa [Step.LooksAt, hchild] using hlooks
  refine hnodup.2 fun p m _ _ c hc c' hc' => ?_
  exact (hself c p hc.2).symm.trans (hself c' p hc'.2)

/-- Two elements of one name, one inside of the other, with an attribute each. -/
def keyedDocument : Document :=
  ⟨"a", .ofList [("k", "1")], [.element "a" (.ofList [("k", "2")]) []]⟩

open Classical in
/-- Both elements look at the attribute of the inner one, which is selected twice. -/
theorem select_counts_attributes :
    ∃ found, keyedDocument.select "//a//@k" = .ok found ∧
      found.map Match.textContent = ["1", "2", "2"] ∧ found.count (.attr [0] "k" "2") = 2 ∧
      (keyedDocument.lookers [⟨true, .element "a", .always⟩] ⟨true, .attr "k", .always⟩
        ⟨[0], "a", .ofList [("k", "2")], []⟩).ncard = 2 := by
  have hquery : readQuery "//a//@k" =
      .ok ([⟨true, .element "a", .always⟩] ++ [⟨true, .attr "k", .always⟩]) := by
    decide +kernel
  have hkeyed : keyedDocument.root.Keyed := by
    refine .element (OrderedMap.distinct_ofList _) (List.forall_mem_singleton.2 ?_)
    exact .element (OrderedMap.distinct_ofList _) (List.forall_mem_nil _)
  have hinner : Reaches keyedDocument .document
      (.element ⟨[0], "a", .ofList [("k", "2")], []⟩) := by
    have hroot : Reaches keyedDocument .document (.element keyedDocument.place) :=
      .single ⟨0, _, ⟨rfl, rfl⟩, rfl⟩
    exact hroot.tail ⟨0, _, ⟨rfl, rfl⟩, rfl⟩
  obtain ⟨found, hselect, hcount, -, -⟩ := select_counts hquery rfl hkeyed
  have hfound : found = [.attr [] "k" "1", .attr [0] "k" "2", .attr [0] "k" "2"] := by
    rw [Document.select, hquery] at hselect
    exact (Except.ok.inj hselect).symm
  have htwice : found.count (.attr [0] "k" "2") = 2 := by
    rw [hfound, List.count_cons_of_ne (by simp), List.count_cons_self, List.count_cons_self,
      List.count_nil]
  refine ⟨found, hselect, by rw [hfound]; rfl, htwice, ?_⟩
  rw [← hcount _ (.attr [0] "k" "2") hinner ⟨"k", "2", List.mem_singleton_self _, rfl, rfl⟩]
  exact htwice

/-- A text inside of two elements of one name. -/
def doubleDocument : Document :=
  ⟨"a", .empty, [.element "a" .empty [.text "t"]]⟩

/-- **Selected twice**: the only text of a document comes twice. -/
theorem select_repeats_text :
    read "<a><a>t</a></a>".toList = .ok doubleDocument ∧
      doubleDocument.select "//a//text()" = .ok [.text [0, 0] "t", .text [0, 0] "t"] := by
  have hquery : readQuery "//a//text()" =
      .ok [⟨true, .element "a", .always⟩, ⟨true, .text, .always⟩] := by
    decide +kernel
  refine ⟨rfl, ?_⟩
  rw [Document.select, hquery]
  rfl

end TagTemplate.Island
