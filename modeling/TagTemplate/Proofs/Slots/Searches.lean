import Mathlib.Logic.Relation
import TagTemplate.Proofs.Slots.Growth

/-!
# Where anchors are found

Reconciling searches the output for one anchor after the other, in an output that changes on the
way: default contents go and plugs come in. Where output and plugs fit together, what is found is
the slot itself, in every output on the way.

- `searches`: the anchors that are searched for, each with the output at that time;
- `makes_searches`: **reconciling makes these searches**, one after the other;
- `Stands`: the output is the one composed before, with slots worked off. `Stands.step` keeps this
  up;
- `Spliceable.stands_of_found`: **an anchor is found where its slot stands**, and nowhere else.
-/

namespace TagTemplate.Slots

open TagTemplate.Text Content Insertion

/-! ## Searches -/

/-- A slot whose anchor is searched for, and the output in which it is. -/
structure Search where
  name : String
  output : List Char
  deriving Repr, DecidableEq

/-- The searches of a pass. -/
def passSearches : Slots → List String → List Char → List Search
  | _, [], _ => []
  | s, name :: names, output =>
    ⟨name, output⟩ ::
      match s.reconcileSlot? name output with
      | some (output, s) => s.passSearches names output
      | none => s.passSearches names output

/-- The searches of all passes. -/
def allSearches (s : Slots) (pending : List String) (output : List Char) : List Search :=
  let (remaining, last, t) := s.reconcilePass pending output
  s.passSearches pending output ++
    if remaining.length < pending.length then t.allSearches remaining last else []
termination_by pending.length

/-- The searches that are made to reconcile an output, in order. -/
def searches (s : Slots) (output : String) : List Search :=
  s.allSearches s.lengths.keys output.toList

/-- The slot noted first is searched for in the output as it is. -/
theorem mem_searches_head {s : Slots} {name : String} {names : List String}
    (h : s.lengths.keys = name :: names) (output : String) :
    ⟨name, output.toList⟩ ∈ s.searches output := by
  rw [searches, h, allSearches, passSearches]
  exact List.mem_append_left _ List.mem_cons_self

variable {names : List String} {s : Slots} {output : List Char} {search : Search}

/-- A pass leaves none but the slots that it goes over. -/
theorem reconcilePass_subset : (s.reconcilePass names output).1 ⊆ names := by
  induction names generalizing s output with
  | nil => exact List.Subset.refl _
  | cons name names ih =>
    cases hstep : s.reconcileSlot? name output with
    | none =>
      rw [reconcilePass_cons_of_none hstep]
      exact List.cons_subset_cons _ ih
    | some p =>
      rw [reconcilePass_cons_of_some hstep]
      exact List.Subset.trans ih (List.subset_cons_self ..)

theorem name_of_mem_passSearches (h : search ∈ s.passSearches names output) :
    search.name ∈ names := by
  induction names generalizing s output with
  | nil => cases h
  | cons name names ih =>
    rw [passSearches] at h
    rcases List.mem_cons.1 h with rfl | h
    · exact List.mem_cons_self
    · refine List.mem_cons_of_mem _ ?_
      split at h
      · exact ih h
      · exact ih h

theorem name_of_mem_allSearches (s : Slots) (pending : List String) (output : List Char)
    (h : search ∈ s.allSearches pending output) : search.name ∈ pending := by
  rw [allSearches] at h
  rcases List.mem_append.1 h with h | h
  · exact name_of_mem_passSearches h
  · split at h
    · exact reconcilePass_subset (name_of_mem_allSearches _ _ _ h)
    · cases h
termination_by pending.length

/-! ## Runs -/

/-- These searches are made one after the other, each in the output that those before have left. -/
inductive Makes : Slots × List Char → List Search → Slots × List Char → Prop
  | nothing (p : Slots × List Char) : Makes p [] p
  | found {s t : Slots} {name : String} {output worked : List Char} {searches : List Search}
      {last : Slots × List Char} (h : s.reconcileSlot? name output = some (worked, t))
      (hrest : Makes (t, worked) searches last) :
      Makes (s, output) (⟨name, output⟩ :: searches) last
  | missed {s : Slots} {name : String} {output : List Char} {searches : List Search}
      {last : Slots × List Char} (h : s.reconcileSlot? name output = none)
      (hrest : Makes (s, output) searches last) :
      Makes (s, output) (⟨name, output⟩ :: searches) last

theorem Makes.append {p q r : Slots × List Char} {first second : List Search}
    (h : Makes p first q) (h' : Makes q second r) : Makes p (first ++ second) r := by
  induction h with
  | nothing => exact h'
  | found hstep _ ih => exact .found hstep (ih h')
  | missed hstep _ ih => exact .missed hstep (ih h')

theorem makes_passSearches (s : Slots) (names : List String) (output : List Char) :
    Makes (s, output) (s.passSearches names output)
      ((s.reconcilePass names output).2.2, (s.reconcilePass names output).2.1) := by
  induction names generalizing s output with
  | nil => exact .nothing _
  | cons name names ih =>
    rw [passSearches]
    cases hstep : s.reconcileSlot? name output with
    | none =>
      rw [reconcilePass_cons_of_none hstep]
      exact .missed hstep (ih s output)
    | some p =>
      rw [reconcilePass_cons_of_some hstep]
      exact .found hstep (ih p.2 p.1)

theorem makes_allSearches (s : Slots) (pending : List String) (output : List Char) :
    Makes (s, output) (s.allSearches pending output)
      ((s.reconcileAll pending output).2, (s.reconcileAll pending output).1) := by
  have hpass := makes_passSearches s pending output
  rw [allSearches, reconcileAll]
  dsimp only
  split
  · exact hpass.append (makes_allSearches ..)
  · rw [List.append_nil]
    exact hpass
termination_by pending.length

/-- **Reconciling makes the searches**, and what they leave is the reconciled output. -/
theorem makes_searches (s : Slots) (output : String) :
    Makes (s, output.toList) (s.searches output)
      ((s.reconcile output).2, (s.reconcile output).1.toList) := by
  have hall := makes_allSearches s s.lengths.keys output.toList
  rw [reconcile, String.toList_ofList]
  exact hall

/-! ## What is found -/

/-- The slot stands once in the content, behind the text `before`: whatever takes its place begins
there, and all that follows its default content comes after. -/
def Content.StandsBehind (name : String) (before : List Char) (c : Content) : Prop :=
  c.names.count name = 1 ∧ ∃ body after, HasSlot name body c ∧
    ∀ f, (c.replace name f).flatten = before ++ ((f body).flatten ++ after)

/-- Content after some of its slots were worked off. -/
abbrev Reworked (is : List Insertion) : Content → Content → Prop :=
  Relation.ReflTransGen fun c d => ∃ name, d = c.workedOff is name

/-- The output of a run in which some of the noted slots were worked off. -/
def Stands (noted : List String) (is : List Insertion) (start : Content) (p : Slots × List Char) :
    Prop :=
  ∃ live c, Unsettled noted is p.1 live c ∧ live.Nodup ∧ c.flatten = p.2 ∧ Reworked is start c

variable {noted : List String} {is : List Insertion} {start : Content} {p q : Slots × List Char}

/-- A slot that is found is not worked off yet. -/
theorem Unsettled.live_of_mem {live : List String} {c : Content} (h : Unsettled noted is s live c)
    {name : String} (hnoted : name ∈ noted) (hmem : name ∈ c.names) : name ∈ live := by
  by_contra hnot
  have honce := h.once name hnoted
  rw [if_neg hnot, List.count_append] at honce
  have hpositive := List.count_pos_iff.2 hmem
  omega

/-- An anchor is found only if its slot is there. -/
theorem Unsettled.mem_of_found {live : List String} {c : Content} (h : Unsettled noted is s live c)
    {name : String} (hname : GoodName name) {split : List Char × List Char}
    (hfound : breakOn? (anchor name).toList c.flatten = some split) : name ∈ c.names := by
  by_contra hnot
  rw [breakOn?_flatten_eq_none hname h.clean hnot] at hfound
  cases hfound

/-- A slot that is worked off is taken out of the content. -/
theorem Stands.step (hgood : ∀ name ∈ noted, GoodName name) (h : Stands noted is start (s, output))
    {name : String} (hnoted : name ∈ noted) {t : Slots} {worked : List Char}
    (hstep : s.reconcileSlot? name output = some (worked, t)) :
    Stands noted is start (t, worked) := by
  obtain ⟨live, c, hunsettled, hnodup, rfl, hreworked⟩ := h
  obtain ⟨split, hsplit, -⟩ := Option.map_eq_some_iff.1 hstep
  have hmem := hunsettled.mem_of_found (hgood name hnoted) hsplit
  obtain ⟨first, last, rfl⟩ := List.append_of_mem (hunsettled.live_of_mem hnoted hmem)
  obtain ⟨u, hworked, hafter, -⟩ := hunsettled.step hnodup hmem
  rw [hworked] at hstep
  obtain ⟨hout, rfl⟩ := Prod.mk.inj (Option.some.inj hstep)
  refine ⟨first ++ last, c.workedOff is name, hafter, ?_, hout, hreworked.tail ⟨name, rfl⟩⟩
  exact (List.nodup_cons.1 (List.nodup_middle.1 hnodup)).2

/-- So it is in the output of every search. -/
theorem Makes.stands (hgood : ∀ name ∈ noted, GoodName name) {searches : List Search}
    (h : Makes p searches q) (hnoted : ∀ search ∈ searches, search.name ∈ noted)
    (hp : Stands noted is start p) :
    ∀ search ∈ searches, ∃ s, Stands noted is start (s, search.output) := by
  induction h with
  | nothing => exact List.forall_mem_nil _
  | @found s _ _ _ _ _ _ hstep _ ih =>
    obtain ⟨hname, hrest⟩ := List.forall_mem_cons.1 hnoted
    exact List.forall_mem_cons.2 ⟨⟨s, hp⟩, ih hrest (hp.step hgood hname hstep)⟩
  | @missed s _ _ _ _ _ _ ih =>
    exact List.forall_mem_cons.2 ⟨⟨s, hp⟩, ih (List.forall_mem_cons.1 hnoted).2 hp⟩

/-- What is found is the slot. -/
theorem Stands.found (hgood : ∀ name ∈ noted, GoodName name) (h : Stands noted is start p)
    {name : String} (hnoted : name ∈ noted) {before after : List Char}
    (hfound : breakOn? (anchor name).toList p.2 = some (before, after)) :
    ∃ c, Reworked is start c ∧ c.flatten = p.2 ∧ c.StandsBehind name before := by
  obtain ⟨live, c, hunsettled, -, hflatten, hreworked⟩ := h
  rw [← hflatten] at hfound
  have hmem := hunsettled.mem_of_found (hgood name hnoted) hfound
  have honce : c.names.count name ≤ 1 := by
    have hle := hunsettled.once name hnoted
    rw [if_pos (hunsettled.live_of_mem hnoted hmem), List.count_append] at hle
    omega
  obtain ⟨front, body, rest, hslot, hbreak, hreplace⟩ :=
    breakOn?_flatten_of_mem hunsettled.clean hmem honce (quiet_nil name)
  rw [List.append_nil, hfound] at hbreak
  obtain ⟨rfl, -⟩ := Prod.mk.inj (Option.some.inj hbreak)
  have hpositive := List.count_pos_iff.2 hmem
  exact ⟨c, hreworked, hflatten, by omega, body, rest, hslot, hreplace⟩

/-- The output is written as the content says, and the queued plugs hold the contents of the
insertions. Apart from anchors there is no mark in them; each slot was noted, and stands in one
place only. -/
structure Composed (s : Slots) (output : String) (c : Content) (is : List Insertion) : Prop where
  output : output.toList = c.flatten
  queue : s.queue = is.map Insertion.plug
  clean : ∀ d ∈ pieces c is, d.Clean
  noted : ∀ d ∈ pieces c is, d.names ⊆ s.lengths.keys
  once : ((pieces c is).flatMap Content.names).Nodup

theorem Grows.composed {plugged : String → Prop} {c : Content} (h : Grows plugged .empty s c is) :
    s.Composed (String.ofList c.flatten) c is where
  output := String.toList_ofList
  queue := h.queue
  clean d hd := (h.sound d hd).clean
  noted d hd _ hname := (h.noted hd hname).1
  once := List.nodup_iff_count_le_one.2 fun name => (h.fresh name).trans (by split <;> omega)

/-- **An anchor is found where its slot stands**, in every output on the way. -/
theorem Spliceable.stands_of_found {c : Content} (h : Spliceable s is c)
    (hsearch : search ∈ s.searches (String.ofList c.flatten)) {before after : List Char}
    (hfound : breakOn? (anchor search.name).toList search.output = some (before, after)) :
    ∃ d, Reworked is c d ∧ d.flatten = search.output ∧ d.StandsBehind search.name before := by
  have hstart : Stands s.lengths.keys is c (s, c.flatten) :=
    ⟨_, c, h.unsettled, h.distinct, rfl, .refl⟩
  have hnames : ∀ search ∈ s.searches (String.ofList c.flatten), search.name ∈ s.lengths.keys :=
    fun _ hmem => name_of_mem_allSearches _ _ _ hmem
  have hmakes := makes_searches s (String.ofList c.flatten)
  rw [String.toList_ofList] at hmakes
  obtain ⟨u, hstands⟩ := hmakes.stands h.good hnames hstart search hsearch
  exact hstands.found h.good (hnames search hsearch) hfound

end TagTemplate.Slots
