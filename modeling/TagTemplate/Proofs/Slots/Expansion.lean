import Mathlib.Data.List.Nodup
import TagTemplate.Proofs.Slots.Pass

/-!
# Plugs that hold slots

The content of a plug may hold slots itself, which surface only when the plug is put in. Passes go
on until none of the slots that are left is found. As long as no anchor occurs twice, every pass
keeps what the output expands to, and at the end nothing is left to expand.

- `Expands`: what content turns into when every slot that can be reached is worked off;
- `Expands.unique`: there is at most one such text;
- `Unsettled`: the invariant of a run, over the slots not yet worked off;
- `reconcile_expands`: reconciling gives this text, whatever the order of the slots.
-/

namespace TagTemplate.Slots

open TagTemplate.Text

/-- Content on its way into a slot. -/
structure Insertion where
  target : String
  content : Content
  append : Bool

namespace Insertion

/-- The plug that stands for the content. -/
def plug (i : Insertion) : String × Plug := (i.target, ⟨String.ofList i.content.flatten, i.append⟩)

/-- What the insertions for one slot put together: one that does not append starts anew. -/
def joinedFrom (start : Content) (is : List Insertion) : Content :=
  is.foldl (fun content i => if i.append then content.append i.content else i.content) start

/-- The content that takes the place of a slot; none without insertions for it. -/
def filling (is : List Insertion) (name : String) : Option Content :=
  match is.filter fun i => i.target == name with
  | [] => none
  | i :: more => some (joinedFrom .done (i :: more))

end Insertion

open Insertion

/-- The output after a slot is worked off: its filling stands in its place, or its default content
if it has none. -/
def Content.workedOff (is : List Insertion) (name : String) (c : Content) : Content :=
  c.replace name fun body => (filling is name).getD body

/-! ## Expansion -/

/-- What content turns into when every noted slot that can be reached is worked off: its filling,
expanded in turn, stands for a slot that has one, and its expanded default content for any other. A
slot that was not noted keeps its anchor. -/
inductive Expands (noted : List String) (fillings : String → Option Content) :
    Content → List Char → Prop
  | done : Expands noted fillings .done []
  | text (chars : List Char) {rest : Content} {more : List Char}
      (hrest : Expands noted fillings rest more) :
      Expands noted fillings (.text chars rest) (chars ++ more)
  | filled {name : String} (body : Content) {content rest : Content} {inner more : List Char}
      (hnoted : name ∈ noted) (hfilling : fillings name = some content)
      (hcontent : Expands noted fillings content inner)
      (hrest : Expands noted fillings rest more) :
      Expands noted fillings (.slot name body rest) (inner ++ more)
  | kept {name : String} {body rest : Content} {inner more : List Char}
      (hnoted : name ∈ noted) (hfilling : fillings name = none)
      (hbody : Expands noted fillings body inner)
      (hrest : Expands noted fillings rest more) :
      Expands noted fillings (.slot name body rest) (inner ++ more)
  | foreign {name : String} {body rest : Content} {inner more : List Char}
      (hnoted : name ∉ noted) (hbody : Expands noted fillings body inner)
      (hrest : Expands noted fillings rest more) :
      Expands noted fillings (.slot name body rest) ((anchor name).toList ++ (inner ++ more))

namespace Expands

variable {noted : List String} {fillings : String → Option Content}

/-- Content expands to one text at most. -/
theorem unique {c : Content} {u v : List Char} (hu : Expands noted fillings c u)
    (hv : Expands noted fillings c v) : u = v := by
  induction hu generalizing v with
  | done =>
    cases hv
    rfl
  | text chars _ ih =>
    cases hv with
    | text _ hrest => rw [ih hrest]
  | filled body hnoted hfilling _ _ ihcontent ihrest =>
    cases hv with
    | filled _ _ hfilling' hcontent hrest =>
      rw [hfilling] at hfilling'
      cases hfilling'
      rw [ihcontent hcontent, ihrest hrest]
    | kept _ hfilling' => rw [hfilling] at hfilling'; cases hfilling'
    | foreign hnoted' => exact absurd hnoted hnoted'
  | kept hnoted hfilling _ _ ihbody ihrest =>
    cases hv with
    | filled _ _ hfilling' => rw [hfilling] at hfilling'; cases hfilling'
    | kept _ _ hbody hrest => rw [ihbody hbody, ihrest hrest]
    | foreign hnoted' => exact absurd hnoted hnoted'
  | foreign hnoted _ _ ihbody ihrest =>
    cases hv with
    | filled _ hnoted' => exact absurd hnoted' hnoted
    | kept hnoted' => exact absurd hnoted' hnoted
    | foreign _ hbody hrest => rw [ihbody hbody, ihrest hrest]

/-- Expansion looks at nothing but which slots are noted. -/
theorem congr {noted' : List String} (h : ∀ name, name ∈ noted ↔ name ∈ noted') {c : Content}
    {u : List Char} (hu : Expands noted fillings c u) : Expands noted' fillings c u := by
  induction hu with
  | done => exact .done
  | text chars _ ih => exact .text chars ih
  | filled body hnoted hfilling _ _ ihcontent ihrest =>
    exact .filled body ((h _).1 hnoted) hfilling ihcontent ihrest
  | kept hnoted hfilling _ _ ihbody ihrest => exact .kept ((h _).1 hnoted) hfilling ihbody ihrest
  | foreign hnoted _ _ ihbody ihrest =>
    exact .foreign (fun hn => hnoted ((h _).2 hn)) ihbody ihrest

theorem append_inv {c d : Content} {u : List Char} (h : Expands noted fillings (c.append d) u) :
    ∃ v w, u = v ++ w ∧ Expands noted fillings c v ∧ Expands noted fillings d w := by
  induction c generalizing u with
  | done => exact ⟨[], u, rfl, .done, h⟩
  | text chars rest ih =>
    cases h with
    | text _ hrest =>
      obtain ⟨v, w, rfl, hv, hw⟩ := ih hrest
      exact ⟨chars ++ v, w, by simp, .text chars hv, hw⟩
  | slot name body rest _ ih =>
    cases h with
    | filled _ hnoted hfilling hcontent hrest =>
      obtain ⟨v, w, rfl, hv, hw⟩ := ih hrest
      exact ⟨_ ++ v, w, by simp, .filled body hnoted hfilling hcontent hv, hw⟩
    | kept hnoted hfilling hbody hrest =>
      obtain ⟨v, w, rfl, hv, hw⟩ := ih hrest
      exact ⟨_ ++ v, w, by simp, .kept hnoted hfilling hbody hv, hw⟩
    | foreign hnoted hbody hrest =>
      obtain ⟨v, w, rfl, hv, hw⟩ := ih hrest
      exact ⟨_ ++ (_ ++ v), w, by simp, .foreign hnoted hbody hv, hw⟩

/-- Working a slot off does not change what content expands to. -/
theorem of_replace {name : String} {f : Content → Content} {c : Content} {u : List Char}
    (hslot : ∀ body rest v w, Expands noted fillings (f body) v → Expands noted fillings rest w →
      Expands noted fillings (.slot name body rest) (v ++ w))
    (h : Expands noted fillings (c.replace name f) u) : Expands noted fillings c u := by
  induction c generalizing u with
  | done => exact h
  | text chars rest ih =>
    cases h with
    | text _ hrest => exact .text chars (ih hrest)
  | slot other body rest ihbody ihrest =>
    rw [Content.replace] at h
    by_cases heq : other = name
    · subst heq
      rw [if_pos rfl] at h
      obtain ⟨v, w, rfl, hv, hw⟩ := append_inv h
      exact hslot body rest v w hv (ihrest hw)
    · rw [if_neg heq] at h
      cases h with
      | filled _ hnoted hfilling hcontent hrest =>
        exact .filled body hnoted hfilling hcontent (ihrest hrest)
      | kept hnoted hfilling hbody hrest =>
        exact .kept hnoted hfilling (ihbody hbody) (ihrest hrest)
      | foreign hnoted hbody hrest => exact .foreign hnoted (ihbody hbody) (ihrest hrest)

/-- Content without noted slots is what it expands to. -/
theorem of_notMem {c : Content} (h : ∀ name ∈ c.names, name ∉ noted) :
    Expands noted fillings c c.flatten := by
  induction c with
  | done => exact .done
  | text chars rest ih => exact .text chars (ih h)
  | slot name body rest ihbody ihrest =>
    refine .foreign (h name List.mem_cons_self) (ihbody fun n hn => ?_) (ihrest fun n hn => ?_)
    · exact h n (List.mem_cons_of_mem _ (List.mem_append_left _ hn))
    · exact h n (List.mem_cons_of_mem _ (List.mem_append_right _ hn))

end Expands

/-! ## Fillings and plugs -/

section Fillings

variable {s : Slots} {is : List Insertion}

theorem plugs_eq_map (hqueue : s.queue = is.map Insertion.plug) (name : String) :
    s.plugs name = (is.filter fun i => i.target == name).map fun i => i.plug.2 := by
  unfold plugs
  rw [hqueue, List.filter_map, List.map_map]
  rfl

theorem toList_joinedFrom (start : Content) (is : List Insertion) :
    ((is.map fun i => i.plug.2).foldl (fun content plug =>
      if plug.append then content ++ plug.content else plug.content)
        (String.ofList start.flatten)).toList = (joinedFrom start is).flatten := by
  induction is generalizing start with
  | nil => simp [joinedFrom]
  | cons i is ih =>
    rw [List.map_cons, List.foldl_cons, joinedFrom, List.foldl_cons, ← joinedFrom, ← ih]
    cases h : i.append <;> simp [Insertion.plug, h]

/-- A slot has no filling exactly when it has no plugs. -/
theorem plugs_eq_nil_of_filling (hqueue : s.queue = is.map Insertion.plug) {name : String}
    (h : filling is name = none) : s.plugs name = [] := by
  rw [plugs_eq_map hqueue]
  unfold filling at h
  split at h
  · next hnone => rw [hnone, List.map_nil]
  · cases h

/-- The filling of a slot is what its plugs join to. -/
theorem joined_plugs_of_filling (hqueue : s.queue = is.map Insertion.plug) {name : String}
    {content : Content} (h : filling is name = some content) :
    s.plugs name ≠ [] ∧ (joined (s.plugs name)).toList = content.flatten := by
  rw [plugs_eq_map hqueue]
  unfold filling at h
  split at h
  · cases h
  · next i more hsome =>
    cases h
    rw [hsome]
    exact ⟨by simp, toList_joinedFrom .done (i :: more)⟩

/-- What holds of every insertion's content, and is kept by appending, holds of fillings. -/
theorem filling_induction {P : Content → Prop} (hdone : P .done)
    (happend : ∀ c d, P c → P d → P (c.append d)) (his : ∀ i ∈ is, P i.content) {name : String}
    {content : Content} (h : filling is name = some content) : P content := by
  -- insertions are joined from the left, and one that does not append begins anew
  have hjoined : ∀ (js : List Insertion) (start : Content), (∀ j ∈ js, P j.content) → P start →
      P (joinedFrom start js) := by
    intro js
    induction js with
    | nil => exact fun _ _ hstart => hstart
    | cons j js ih =>
      intro start hjs hstart
      refine ih _ (fun k hk => hjs k (List.mem_cons_of_mem _ hk)) ?_
      have hj := hjs j List.mem_cons_self
      show P (if j.append then start.append j.content else j.content)
      split
      · exact happend _ _ hstart hj
      · exact hj
  unfold filling at h
  split at h
  · cases h
  · next i more hsome =>
    cases h
    refine hjoined _ _ (fun j hj => his j ?_) hdone
    rw [← hsome] at hj
    exact (List.mem_filter.1 hj).1

end Fillings

/-! ## The invariant of a run -/

/-- Every noted slot that has plugs holds plain text as long as noted. -/
def Measured (s : Slots) : Content → Prop
  | .done => True
  | .text _ rest => Measured s rest
  | .slot name body rest =>
    (∀ length ∈ s.lengths.get? name, s.plugs name ≠ [] →
      body.names = [] ∧ length = byteLength body.flatten) ∧ Measured s body ∧ Measured s rest

instance decidableMeasured (s : Slots) : (c : Content) → Decidable (Measured s c)
  | .done => .isTrue trivial
  | .text _ rest => decidableMeasured s rest
  | .slot _ body rest =>
    haveI := decidableMeasured s body
    haveI := decidableMeasured s rest
    inferInstanceAs (Decidable (_ ∧ _ ∧ _))

section Measured

variable {s : Slots}

theorem measured_append {c d : Content} (hc : Measured s c) (hd : Measured s d) :
    Measured s (c.append d) := by
  induction c with
  | done => exact hd
  | text chars rest ih => exact ih hc
  | slot name body rest _ ih => exact ⟨hc.1, hc.2.1, ih hc.2.2⟩

theorem measured_replace {name : String} {f : Content → Content}
    (hf : ∀ body, Measured s body → Measured s (f body)) {c : Content} (hc : Measured s c) :
    Measured s (c.replace name f) := by
  induction c with
  | done => trivial
  | text chars rest ih => exact ih hc
  | slot other body rest ihbody ihrest =>
    rw [Content.replace]
    split
    · exact measured_append (hf body hc.2.1) (ihrest hc.2.2)
    · refine ⟨fun length hlength hplugs => ?_, ihbody hc.2.1, ihrest hc.2.2⟩
      have hbody := hc.1 length hlength hplugs
      rwa [Content.replace_of_notMem f (by simp [hbody.1])]

theorem measured_congr {t : Slots} (hqueue : t.queue = s.queue) {c : Content}
    (hget : ∀ name ∈ c.names, t.lengths.get? name = s.lengths.get? name) (hc : Measured s c) :
    Measured t c := by
  induction c with
  | done => trivial
  | text chars rest ih => exact ih hget hc
  | slot name body rest ihbody ihrest =>
    refine ⟨?_, ihbody (fun n hn => hget n ?_) hc.2.1, ihrest (fun n hn => hget n ?_) hc.2.2⟩
    · rw [hget name List.mem_cons_self, plugs_congr hqueue]
      exact hc.1
    · exact List.mem_cons_of_mem _ (List.mem_append_left _ hn)
    · exact List.mem_cons_of_mem _ (List.mem_append_right _ hn)

theorem measured_hasSlot {name : String} {body c : Content} (hc : Measured s c)
    (h : Content.HasSlot name body c) {length : Nat} (hlength : s.lengths.get? name = some length)
    (hplugs : s.plugs name ≠ []) : body.names = [] ∧ length = byteLength body.flatten := by
  induction h with
  | here rest => exact hc.1 length hlength hplugs
  | text chars _ ih => exact ih hc
  | inside other rest _ ih => exact ih hc.2.1
  | after other inner _ ih => exact ih hc.2.2

end Measured

/-- The slots that come with the filling of a slot. -/
def fillingNames (is : List Insertion) (name : String) : List String :=
  ((filling is name).map Content.names).getD []

/-- The state of a run in which the slots `live` are not worked off yet: their fillings and the
output hold each noted slot at most once, and those worked off not at all. -/
structure Unsettled (noted : List String) (is : List Insertion) (s : Slots) (live : List String)
    (c : Content) : Prop where
  queue : s.queue = is.map Insertion.plug
  live_noted : ∀ name ∈ live, name ∈ noted
  good : ∀ name ∈ live, Content.GoodName name
  known : ∀ name ∈ live, (s.lengths.get? name).isSome
  clean : c.Clean
  clean_filling : ∀ name content, filling is name = some content → content.Clean
  measured : Measured s c
  measured_filling : ∀ name ∈ live, ∀ content, filling is name = some content → Measured s content
  once : ∀ name ∈ noted,
    (c.names ++ live.flatMap (fillingNames is)).count name ≤ if name ∈ live then 1 else 0

section Counting

variable {is : List Insertion}

theorem count_joinedFrom_le (start : Content) (is : List Insertion) (name : String) :
    (joinedFrom start is).names.count name ≤
      start.names.count name + (is.flatMap fun i => i.content.names).count name := by
  induction is generalizing start with
  | nil => simp [joinedFrom]
  | cons i is ih =>
    have hle := ih (if i.append then start.append i.content else i.content)
    rw [List.flatMap_cons, List.count_append]
    refine Nat.le_trans hle ?_
    split
    · rw [Content.names_append, List.count_append]
      omega
    · omega

theorem count_fillingNames_le (is : List Insertion) (target name : String) :
    (fillingNames is target).count name ≤
      ((is.filter fun i => i.target == target).flatMap fun i => i.content.names).count name := by
  unfold fillingNames filling
  split
  · simp
  · next i more hsome =>
    rw [hsome]
    simpa [Content.names] using count_joinedFrom_le .done (i :: more) name

/-- Distinct slots share no insertion, so all fillings together hold no more than all insertions. -/
theorem count_flatMap_fillingNames_le {targets : List String} (hnodup : targets.Nodup)
    (is : List Insertion) (name : String) :
    (targets.flatMap (fillingNames is)).count name ≤
      (is.flatMap fun i => i.content.names).count name := by
  have hsplit : ∀ (p : Insertion → Bool) (js : List Insertion),
      (js.flatMap fun i => i.content.names).count name =
        ((js.filter p).flatMap fun i => i.content.names).count name +
        ((js.filter fun i => !p i).flatMap fun i => i.content.names).count name := by
    intro p js
    induction js with
    | nil => rfl
    | cons j js ih =>
      cases hp : p j <;> simp [hp, List.count_append] at ih ⊢ <;> omega
  induction targets generalizing is with
  | nil => simp
  | cons target targets ih =>
    obtain ⟨hnot, hnodup⟩ := List.nodup_cons.1 hnodup
    -- the other slots draw on the insertions that are not for this one
    have hothers : targets.flatMap (fillingNames is) =
        targets.flatMap (fillingNames (is.filter fun i => !(i.target == target))) := by
      refine List.flatMap_congr fun other hother => ?_
      have hfilter :
          (is.filter fun i => !(i.target == target)).filter (fun i => i.target == other) =
          is.filter fun i => i.target == other := by
        rw [List.filter_filter]
        refine List.filter_congr fun i _ => ?_
        by_cases h : i.target = other
        · have hne : ¬ other = target := fun heq => hnot (heq ▸ hother)
          simp [h, hne]
        · simp [h]
      unfold fillingNames filling
      rw [hfilter]
    have hfirst := count_fillingNames_le is target name
    have hrest := ih hnodup (is.filter fun i => !(i.target == target))
    rw [List.flatMap_cons, List.count_append, hothers, hsplit (fun i => i.target == target) is]
    omega

end Counting

section Run

variable {noted : List String} {is : List Insertion} {s : Slots} {c : Content}

theorem count_flatMap_middle {g : String → List String} (before after : List String)
    (name other : String) :
    ((before ++ name :: after).flatMap g).count other =
      (g name).count other + ((before ++ after).flatMap g).count other := by
  simp only [List.flatMap_append, List.flatMap_cons, List.count_append]
  omega

/-- The slot that is worked off leaves the output, and its filling moves into it. -/
theorem Unsettled.once_replace {before after : List String} {name : String}
    (h : Unsettled noted is s (before ++ name :: after) c) {body : Content}
    (hslot : Content.HasSlot name body c) {f : Content → Content}
    (hf : ∀ other, (f body).names.count other =
      body.names.count other + (fillingNames is name).count other) :
    ∀ other ∈ noted,
      ((c.replace name f).names ++ (before ++ after).flatMap (fillingNames is)).count other ≤
        if other ∈ before ++ after then 1 else 0 := by
  intro other hother
  have hmem : name ∈ before ++ name :: after := by simp
  have htotal := h.once other hother
  have hname := h.once name (h.live_noted name hmem)
  rw [if_pos hmem] at hname
  rw [List.count_append, count_flatMap_middle] at htotal hname
  have hreplace := Content.count_names_replace hslot (by omega) f other
  rw [hf other, List.count_cons] at hreplace
  rw [List.count_append]
  -- the slot itself is gone, and the names that its filling holds are in the content now
  by_cases heq : other = name
  · subst heq
    rw [beq_self_eq_true, if_pos rfl] at hreplace
    omega
  · have hne : (name == other) = false := by simpa using Ne.symm heq
    rw [hne] at hreplace
    have hiff : other ∈ before ++ name :: after ↔ other ∈ before ++ after := by
      simp [heq]
    simp only [hiff] at htotal
    simp only [Bool.false_eq_true, if_false] at hreplace
    omega

/-- The invariant without a slot that was worked off: nothing of the registry changed but that
slot's length, and the slot is nowhere any more. -/
theorem Unsettled.settle {before after : List String} {name : String}
    (h : Unsettled noted is s (before ++ name :: after) c)
    (hnodup : (before ++ name :: after).Nodup) {t : Slots} (hqueue : t.queue = s.queue)
    (hget : ∀ other, other ≠ name → t.lengths.get? other = s.lengths.get? other) {c' : Content}
    (hclean : c'.Clean) (hmeasured : Measured s c')
    (honce : ∀ other ∈ noted,
      (c'.names ++ (before ++ after).flatMap (fillingNames is)).count other ≤
        if other ∈ before ++ after then 1 else 0) :
    Unsettled noted is t (before ++ after) c' := by
  have hlive : ∀ other ∈ before ++ after, other ∈ before ++ name :: after ∧ other ≠ name := by
    intro other hother
    have hnot := (List.nodup_middle.1 hnodup)
    refine ⟨?_, fun heq => (List.nodup_cons.1 hnot).1 (heq ▸ hother)⟩
    rcases List.mem_append.1 hother with hb | ha
    · exact List.mem_append_left _ hb
    · exact List.mem_append_right _ (List.mem_cons_of_mem _ ha)
  -- the slot was the only one of its name, and it is neither in the output nor in a filling
  have hgone : name ∉ c'.names ++ (before ++ after).flatMap (fillingNames is) := by
    have hcount := honce name (h.live_noted name (by simp))
    rw [if_neg fun hin => (hlive name hin).2 rfl] at hcount
    exact List.count_eq_zero.1 (by omega)
  rw [List.mem_append, not_or] at hgone
  have hkeep : ∀ d : Content, name ∉ d.names → Measured s d → Measured t d := fun d hd =>
    measured_congr hqueue fun n hn => hget n fun heq => hd (heq ▸ hn)
  exact {
    queue := hqueue.trans h.queue
    live_noted := fun n hn => h.live_noted n (hlive n hn).1
    good := fun n hn => h.good n (hlive n hn).1
    known := fun n hn => by
      rw [hget n (hlive n hn).2]
      exact h.known n (hlive n hn).1
    clean := hclean
    clean_filling := h.clean_filling
    measured := hkeep c' hgone.1 hmeasured
    measured_filling := fun n hn content hcontent => by
      refine hkeep content (fun hin => hgone.2 ?_) (h.measured_filling n (hlive n hn).1 _ hcontent)
      exact List.mem_flatMap.2 ⟨n, hn, by simpa [fillingNames, hcontent] using hin⟩
    once := honce }

/-- Working off a slot that stands in the output keeps the invariant, and what is left expands to
nothing that the output before did not expand to. -/
theorem Unsettled.step {before after : List String} {name : String}
    (h : Unsettled noted is s (before ++ name :: after) c)
    (hnodup : (before ++ name :: after).Nodup) (hmem : name ∈ c.names) :
    ∃ t : Slots, s.reconcileSlot? name c.flatten = some ((c.workedOff is name).flatten, t) ∧
      Unsettled noted is t (before ++ after) (c.workedOff is name) ∧
      ∀ u, Expands noted (filling is) (c.workedOff is name) u → Expands noted (filling is) c u := by
  have hlive : name ∈ before ++ name :: after := by simp
  have hnoted : name ∈ noted := h.live_noted name hlive
  have honce : c.names.count name ≤ 1 := by
    have := h.once name hnoted
    rw [if_pos hlive, List.count_append] at this
    omega
  obtain ⟨first, body, last, hslot, hfound, hreplace⟩ :=
    Content.breakOn?_flatten_of_mem h.clean hmem honce (Content.quiet_nil name)
  simp only [List.append_nil] at hfound
  -- without plugs only the anchor goes; else the filling stands where the default content was
  cases hfilling : filling is name with
  | none =>
    have hworked : c.workedOff is name = c.replace name id := by
      rw [Content.workedOff, hfilling]
      rfl
    have hstep := reconcileSlot?_kept hfound (plugs_eq_nil_of_filling h.queue hfilling)
    rw [show first ++ (body.flatten ++ last) = _ from (hreplace id).symm] at hstep
    rw [hworked]
    refine ⟨s, hstep, ?_, fun u => Expands.of_replace ?_⟩
    · exact h.settle hnodup rfl (fun _ _ => rfl) (Content.clean_replace (fun _ hb => hb) h.clean)
        (measured_replace (fun _ hb => hb) h.measured)
        (h.once_replace hslot (by simp [fillingNames, hfilling]))
    · exact fun _ _ _ _ hbody hrest => .kept hnoted hfilling hbody hrest
  | some content =>
    have hworked : c.workedOff is name = c.replace name fun _ => content := by
      rw [Content.workedOff, hfilling]
      rfl
    obtain ⟨hplugs, hjoined⟩ := joined_plugs_of_filling h.queue hfilling
    obtain ⟨length, hlength⟩ := Option.isSome_iff_exists.1 (h.known name hlive)
    obtain ⟨hbody, rfl⟩ := measured_hasSlot h.measured hslot hlength hplugs
    have hstep := reconcileSlot?_filled hfound hplugs hlength
    rw [hjoined, List.append_assoc, ← hreplace fun _ => content] at hstep
    rw [hworked]
    refine ⟨_, hstep, ?_, fun u => Expands.of_replace ?_⟩
    · exact h.settle hnodup (queue_setLength s name _) (fun _ hne => get?_setLength_of_ne hne _)
        (Content.clean_replace (fun _ _ => h.clean_filling name content hfilling) h.clean)
        (measured_replace (fun _ _ => h.measured_filling name hlive content hfilling) h.measured)
        (h.once_replace hslot (by simp [fillingNames, hfilling, hbody]))
    · exact fun body rest _ _ hcontent hrest => .filled body hnoted hfilling hcontent hrest

/-- A pass keeps the invariant and what the output expands to. If it works nothing off, then nothing
could be worked off. -/
theorem Unsettled.pass {before todo : List String} (h : Unsettled noted is s (before ++ todo) c)
    (hnodup : (before ++ todo).Nodup) :
    ∃ remaining c', ∃ t : Slots, s.reconcilePass todo c.flatten = (remaining, c'.flatten, t) ∧
      remaining.Sublist todo ∧ Unsettled noted is t (before ++ remaining) c' ∧
      (∀ u, Expands noted (filling is) c' u → Expands noted (filling is) c u) ∧
      (remaining.length < todo.length ∨ c' = c ∧ ∀ name ∈ todo, name ∉ c.names) := by
  induction todo generalizing before s c with
  | nil =>
    exact ⟨[], c, s, rfl, .slnil, h, fun _ hu => hu, .inr ⟨rfl, fun _ hn => nomatch hn⟩⟩
  | cons name todo ih =>
    by_cases hmem : name ∈ c.names
    · obtain ⟨t₁, hstep, h₁, hexpand₁⟩ := h.step hnodup hmem
      obtain ⟨remaining, c₂, t₂, hpass, hsub, h₂, hexpand₂, -⟩ :=
        ih h₁ (List.nodup_cons.1 (List.nodup_middle.1 hnodup)).2
      refine ⟨remaining, c₂, t₂, ?_, hsub.cons name, h₂,
        fun u hu => hexpand₁ u (hexpand₂ u hu), .inl ?_⟩
      · rw [reconcilePass_cons_of_some hstep, hpass]
      · exact Nat.lt_of_le_of_lt hsub.length_le (Nat.lt_succ_self _)
    · have habsent : s.reconcileSlot? name c.flatten = none :=
        reconcileSlot?_absent
          (Content.breakOn?_flatten_eq_none (h.good name (by simp)) h.clean hmem)
      -- a slot that is not found yet stays alive: it may come in with a later plug
      have hshift : before ++ name :: todo = (before ++ [name]) ++ todo := by simp
      obtain ⟨remaining, c₁, t₁, hpass, hsub, h₁, hexpand, hprogress⟩ :=
        ih (hshift ▸ h) (hshift ▸ hnodup)
      refine ⟨name :: remaining, c₁, t₁, ?_, hsub.cons_cons name, ?_, hexpand, ?_⟩
      · rw [reconcilePass_cons_of_none habsent, hpass]
      · simpa using h₁
      · rcases hprogress with hlt | ⟨rfl, hnone⟩
        · exact .inl (Nat.succ_lt_succ hlt)
        · refine .inr ⟨rfl, fun n hn => ?_⟩
          rcases List.mem_cons.1 hn with rfl | hn
          · exact hmem
          · exact hnone n hn

/-- Passes end with content that holds no noted slot. -/
theorem Unsettled.all {s : Slots} {c : Content} {live : List String}
    (h : Unsettled noted is s live c) (hnodup : live.Nodup) :
    ∃ c', (s.reconcileAll live c.flatten).1 = Content.flatten c' ∧ c'.Clean ∧
      (∀ name ∈ noted, name ∉ c'.names) ∧
      ∀ u, Expands noted (filling is) c' u → Expands noted (filling is) c u := by
  obtain ⟨remaining, c₁, t, hpass, hsub, h₁, hexpand, hprogress⟩ :=
    Unsettled.pass (show Unsettled noted is s ([] ++ live) c from h) hnodup
  rw [reconcileAll, hpass]
  show ∃ c', (if remaining.length < live.length then t.reconcileAll remaining c₁.flatten
    else (c₁.flatten, t)).1 = Content.flatten c' ∧ _
  -- a pass that works nothing off is the last one
  by_cases hlt : remaining.length < live.length
  · rw [if_pos hlt]
    obtain ⟨c₂, hall, hclean, hnone, hexpand₂⟩ := Unsettled.all h₁ (hnodup.sublist hsub)
    exact ⟨c₂, hall, hclean, hnone, fun u hu => hexpand u (hexpand₂ u hu)⟩
  · rw [if_neg hlt]
    obtain ⟨rfl, hnone⟩ := hprogress.resolve_left hlt
    refine ⟨c₁, rfl, h₁.clean, fun name hname hin => ?_, hexpand⟩
    by_cases hlive : name ∈ live
    · exact hnone name hlive hin
    -- a slot that was worked off does not come back
    · have hcount := h.once name hname
      rw [if_neg hlive, List.count_append] at hcount
      have := List.count_pos_iff.2 hin
      omega
termination_by live.length

end Run

/-- Output and plugs of text and slots that fit together: every noted slot occurs at most once in
all of them, and every slot with plugs is noted with the length of its default content, a plain
text. -/
structure Spliceable (s : Slots) (is : List Insertion) (output : Content) : Prop where
  queue : s.queue = is.map Insertion.plug
  distinct : s.lengths.Distinct
  good : ∀ name ∈ s.lengths.keys, Content.GoodName name
  clean : output.Clean
  clean_insertion : ∀ i ∈ is, i.content.Clean
  measured : Measured s output
  measured_insertion : ∀ i ∈ is, Measured s i.content
  once : ∀ name ∈ s.lengths.keys,
    (output.names ++ is.flatMap fun i => i.content.names).count name ≤ 1

section Spliceable

variable {s : Slots} {is : List Insertion} {output : Content}

theorem Spliceable.unsettled (h : Spliceable s is output) :
    Unsettled s.lengths.keys is s s.lengths.keys output where
  queue := h.queue
  live_noted _ hn := hn
  good := h.good
  known _ hn := OrderedMap.contains_of_mem_keys hn
  clean := h.clean
  clean_filling _ _ := filling_induction trivial (fun _ _ => Content.clean_append) h.clean_insertion
  measured := h.measured
  measured_filling _ _ _ :=
    filling_induction trivial (fun _ _ => measured_append) h.measured_insertion
  once name hname := by
    have honce := h.once name hname
    have hle := count_flatMap_fillingNames_le h.distinct is name
    rw [List.count_append] at honce
    rw [if_pos hname, List.count_append]
    omega

/-- The order in which slots are noted does not matter for what fits together. -/
theorem Spliceable.perm (h : Spliceable s is output) {t : Slots} (hqueue : t.queue = s.queue)
    (hperm : t.lengths.entries.Perm s.lengths.entries) : Spliceable t is output := by
  have hkeys : t.lengths.keys.Perm s.lengths.keys := hperm.map Prod.fst
  have hdistinct : t.lengths.Distinct := hkeys.nodup_iff.2 h.distinct
  have hmeasured : ∀ c, Measured s c → Measured t c := by
    intro c
    refine measured_congr hqueue fun name _ => ?_
    exact OrderedMap.get?_perm hdistinct hperm name
  exact {
    queue := hqueue.trans h.queue
    distinct := hdistinct
    good := fun name hname => h.good name (hkeys.mem_iff.1 hname)
    clean := h.clean
    clean_insertion := h.clean_insertion
    measured := hmeasured output h.measured
    measured_insertion := fun i hi => hmeasured i.content (h.measured_insertion i hi)
    once := fun name hname => h.once name (hkeys.mem_iff.1 hname) }

/-- The reconciled output is content without noted slots, and the output expands to it. -/
theorem Spliceable.reconcile (h : Spliceable s is output) :
    ∃ c, (s.reconcile (String.ofList output.flatten)).1 = String.ofList (Content.flatten c) ∧
      c.Clean ∧ (∀ name ∈ s.lengths.keys, name ∉ c.names) ∧
      Expands s.lengths.keys (filling is) output c.flatten := by
  obtain ⟨c, hall, hclean, hnone, hexpand⟩ := h.unsettled.all h.distinct
  refine ⟨c, ?_, hclean, hnone, hexpand _ (.of_notMem fun name hin hnoted => ?_)⟩
  · show String.ofList (s.reconcileAll s.lengths.keys (String.ofList output.flatten).toList).1 = _
    rw [String.toList_ofList, hall]
  · exact hnone name hnoted hin

end Spliceable

/-- **Plugs that hold slots are expanded in full**: where output and plugs fit together, the
reconciled output is the one text that the output expands to, it holds the anchor of no noted slot,
and it is the same for every order in which the slots are noted. -/
theorem reconcile_expands (s : Slots) (is : List Insertion) (output : Content)
    (h : Spliceable s is output) :
    (∀ u, Expands s.lengths.keys (filling is) output u ↔
      u = (s.reconcile (String.ofList output.flatten)).1.toList) ∧
    (∀ name ∈ s.lengths.keys,
      Text.contains (anchor name) (s.reconcile (String.ofList output.flatten)).1 = false) ∧
    ∀ t : Slots, t.queue = s.queue → t.lengths.entries.Perm s.lengths.entries →
      (t.reconcile (String.ofList output.flatten)).1 =
        (s.reconcile (String.ofList output.flatten)).1 := by
  obtain ⟨c, hresult, hclean, hnone, hexpand⟩ := h.reconcile
  refine ⟨fun u => ⟨fun hu => ?_, ?_⟩, fun name hname => ?_, fun t hqueue hperm => ?_⟩
  · rw [hresult, String.toList_ofList]
    exact hu.unique hexpand
  · rintro rfl
    rw [hresult, String.toList_ofList]
    exact hexpand
  · rw [hresult, Text.contains, String.toList_ofList,
      Content.breakOn?_flatten_eq_none (h.good name hname) hclean (hnone name hname)]
    rfl
  · obtain ⟨d, hresult', -, -, hexpand'⟩ := (h.perm hqueue hperm).reconcile
    have hkeys : t.lengths.keys.Perm s.lengths.keys := hperm.map Prod.fst
    rw [hresult, hresult', (hexpand'.congr fun _ => hkeys.mem_iff).unique hexpand]

/-- A slot whose plug brings in a second one, whose default content holds a third one; two more
slots stand in each other's plugs only. -/
def chainedOutput : Content :=
  .text ['<'] (.slot "first" (.text ['é'] .done) (.text ['>'] .done))

/-- The insertions of the chain and of the circle beside it. -/
def chainedInsertions : List Insertion :=
  [⟨"first", .text ['1'] (.slot "second" (.text ['2'] (.slot "third" .done .done)) .done), true⟩,
    ⟨"third", .text ['3'] .done, false⟩,
    ⟨"left", .slot "right" .done .done, false⟩, ⟨"right", .slot "left" .done .done, false⟩]

/-- The slots of the chain and the circle, noted innermost first. -/
def chainedSlots : Slots :=
  ⟨⟨[("third", 0), ("left", 0), ("right", 0), ("second", 13), ("first", 2)]⟩,
    chainedInsertions.map Insertion.plug⟩

theorem chained_spliceable : Spliceable chainedSlots chainedInsertions chainedOutput where
  queue := rfl
  distinct := by unfold OrderedMap.Distinct; decide
  good := by decide
  clean := by decide
  clean_insertion := by decide
  measured := by decide
  measured_insertion := by decide
  once := by decide

theorem reconcile_expands_chained :
    Spliceable chainedSlots chainedInsertions chainedOutput ∧
      (chainedSlots.reconcile (String.ofList chainedOutput.flatten)).1 = "<123>" ∧
      Expands chainedSlots.lengths.keys (filling chainedInsertions) chainedOutput
        ['<', '1', '2', '3', '>'] := by
  have hexpands := (reconcile_expands chainedSlots chainedInsertions chainedOutput
    chained_spliceable).1
  have hresult : (chainedSlots.reconcile (String.ofList chainedOutput.flatten)).1 = "<123>" := by
    decide +kernel
  exact ⟨chained_spliceable, hresult, (hexpands _).2 (by rw [hresult]; decide)⟩

end TagTemplate.Slots
