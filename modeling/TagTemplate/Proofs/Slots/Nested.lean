import TagTemplate.Proofs.Slots.Pass

/-!
# Slots nested in default contents

Slots are noted outermost first in the order of the output, each with the length of its default
content as it was rendered, inner anchors included. Working them off in this order always finds the
next slot right behind finished text, so the length noted for it is still exact.

- `Content.fill`: what every slot turns into;
- `Ready`: what a pass over content relies on, and what is left to rely on behind a slot;
- `Ready.filled`: a pass fills the content;
- `reconcile_nested`: reconciling such output gives exactly that.
-/

namespace TagTemplate.Slots

open TagTemplate.Text

namespace Content

/-- Slots with the byte lengths of their default contents, outermost first in the order of the
output. -/
def recorded : Content → List (String × Nat)
  | done => []
  | text _ rest => rest.recorded
  | slot name body rest => (name, byteLength body.flatten) :: (body.recorded ++ rest.recorded)

/-- What is left when all slots are worked off: the plugs of a slot stand for it and for all that is
in its default content; without plugs the default content stays. -/
def fill (plugs : String → List Plug) : Content → List Char
  | done => []
  | text chars rest => chars ++ rest.fill plugs
  | slot name body rest =>
    match plugs name with
    | [] => body.fill plugs ++ rest.fill plugs
    | plug :: more => (joined (plug :: more)).toList ++ rest.fill plugs

theorem fill_slot_of_nil {plugs : String → List Plug} {name : String} (h : plugs name = [])
    (body rest : Content) :
    (slot name body rest).fill plugs = body.fill plugs ++ rest.fill plugs := by
  rw [fill, h]

theorem fill_slot_of_ne_nil {plugs : String → List Plug} {name : String} (h : plugs name ≠ [])
    (body rest : Content) :
    (slot name body rest).fill plugs = (joined (plugs name)).toList ++ rest.fill plugs := by
  rw [fill]
  cases hp : plugs name with
  | nil => exact absurd hp h
  | cons plug more => rfl

theorem map_fst_recorded (c : Content) : c.recorded.map Prod.fst = c.names := by
  induction c with
  | done => rfl
  | text chars rest ih => exact ih
  | slot name body rest ihbody ihrest => simp [recorded, names, ihbody, ihrest]

end Content

/-- Plugs whose contents hold no mark. -/
def Unmarked (plugs : List Plug) : Prop := ∀ plug ∈ plugs, anchorMark ∉ plug.content.toList

theorem notMem_foldl_joined {plugs : List Plug} (h : Unmarked plugs) {start : String}
    (hstart : anchorMark ∉ start.toList) :
    anchorMark ∉ (plugs.foldl (fun content plug =>
      if plug.append then content ++ plug.content else plug.content) start).toList := by
  induction plugs generalizing start with
  | nil => exact hstart
  | cons plug plugs ih =>
    have hplug := h plug List.mem_cons_self
    refine ih (fun p hp => h p (List.mem_cons_of_mem _ hp)) ?_
    show anchorMark ∉ (if plug.append then start ++ plug.content else plug.content).toList
    split
    · rw [String.toList_append, List.mem_append, not_or]
      exact ⟨hstart, hplug⟩
    · exact hplug

theorem notMem_joined {plugs : List Plug} (h : Unmarked plugs) :
    anchorMark ∉ (joined plugs).toList :=
  notMem_foldl_joined h (by simp)

theorem Content.notMem_fill {plugs : String → List Plug} (hplugs : ∀ name, Unmarked (plugs name))
    {c : Content} (hc : c.Clean) : anchorMark ∉ c.fill plugs := by
  induction c with
  | done => simp [Content.fill]
  | text chars rest ih =>
    rw [Content.fill, List.mem_append, not_or]
    exact ⟨hc.1, ih hc.2⟩
  | slot name body rest ihbody ihrest =>
    by_cases h : plugs name = []
    · rw [Content.fill_slot_of_nil h, List.mem_append, not_or]
      exact ⟨ihbody hc.2.1, ihrest hc.2.2⟩
    · rw [Content.fill_slot_of_ne_nil h, List.mem_append, not_or]
      exact ⟨notMem_joined (hplugs name), ihrest hc.2.2⟩

/-! ## One pass -/

section Pass

variable {c d body rest : Content} {finished : List Char} {name : String} {s t : Slots}

/-- What a pass over content relies on: the text before it is finished, all slots in it and behind
it are under names of their own, those in it are measured exactly, and no plug brings a mark. -/
structure Ready (c d : Content) (finished : List Char) (s : Slots) : Prop where
  unmarked : anchorMark ∉ finished
  clean : c.Clean
  behind : d.Clean
  nodup : (c.names ++ d.names).Nodup
  measured : ∀ e ∈ c.recorded, s.lengths.get? e.1 = some e.2
  plugs : ∀ name, Unmarked (s.plugs name)

/-- A pass over the slots of the content, in the order in which they are noted down, fills it: what
is finished before it and what stands after it stay as they are. Slots of default contents that
plugs replaced are the ones left over. -/
def Filled (c d : Content) (finished : List Char) (later : List String) (s : Slots) : Prop :=
  ∃ left, ∃ t : Slots, s.reconcilePass (c.names ++ later) (finished ++ (c.flatten ++ d.flatten)) =
      (left ++ (t.reconcilePass later (finished ++ (c.fill s.plugs ++ d.flatten))).1,
        (t.reconcilePass later (finished ++ (c.fill s.plugs ++ d.flatten))).2) ∧
    t.queue = s.queue ∧ ∀ name, name ∉ c.names → t.lengths.get? name = s.lengths.get? name

/-- Finished text goes on. -/
theorem Ready.notMem_append (h : Ready c d finished s) {more : List Char}
    (hmore : anchorMark ∉ more) : anchorMark ∉ finished ++ more := by
  rw [List.mem_append, not_or]
  exact ⟨h.unmarked, hmore⟩

theorem Ready.nodup_slot (h : Ready (.slot name body rest) d finished s) :
    name ∉ body.names ++ (rest.names ++ d.names) ∧
      (body.names ++ (rest.names ++ d.names)).Nodup := by
  have hnodup := h.nodup
  rw [Content.names, List.cons_append, List.append_assoc] at hnodup
  exact List.nodup_cons.1 hnodup

theorem Ready.clean_append (h : Ready (.slot name body rest) d finished s) :
    (rest.append d).Clean :=
  Content.clean_append h.clean.2.2 h.behind

/-- The default content of a slot comes first, with all else behind it. -/
theorem Ready.inside (h : Ready (.slot name body rest) d finished s) :
    Ready body (rest.append d) finished s where
  unmarked := h.unmarked
  clean := h.clean.2.1
  behind := h.clean_append
  nodup := by
    rw [Content.names_append]
    exact h.nodup_slot.2
  measured e he := h.measured e (List.mem_cons_of_mem _ (List.mem_append_left _ he))
  plugs := h.plugs

/-- What is behind a slot comes next: to work off the slot and those inside it leaves the lengths of
later ones alone. -/
theorem Ready.after (h : Ready (.slot name body rest) d finished s) {more : List Char}
    (hmore : anchorMark ∉ more) (hqueue : t.queue = s.queue)
    (hget : ∀ other, other ∉ name :: body.names → t.lengths.get? other = s.lengths.get? other) :
    Ready rest d (finished ++ more) t where
  unmarked := h.notMem_append hmore
  clean := h.clean.2.2
  behind := h.behind
  nodup := (List.nodup_append.1 h.nodup_slot.2).2.1
  measured e he := by
    obtain ⟨hname, hnodup⟩ := h.nodup_slot
    have hmem : e.1 ∈ rest.names := by
      rw [← Content.map_fst_recorded]
      exact List.mem_map.2 ⟨e, he, rfl⟩
    -- a slot behind is neither this one nor one inside of it
    have hother : e.1 ∉ name :: body.names := by
      rw [List.mem_cons, not_or]
      constructor
      · rintro rfl
        exact hname (List.mem_append_right _ (List.mem_append_left _ hmem))
      · intro hin
        exact (List.nodup_append.1 hnodup).2.2 _ hin _ (List.mem_append_left _ hmem) rfl
    rw [hget e.1 hother]
    exact h.measured e (List.mem_cons_of_mem _ (List.mem_append_right _ he))
  plugs := plugs_congr hqueue ▸ h.plugs

/-- What is finished holds no mark, so the anchor of the slot is the first thing found. -/
theorem Ready.breakOn?_anchor (h : Ready (.slot name body rest) d finished s) :
    breakOn? (anchor name).toList
        (finished ++ ((Content.slot name body rest).flatten ++ d.flatten)) =
      some (finished, body.flatten ++ (rest.append d).flatten) := by
  rw [Content.breakOn?_anchor_text h.unmarked, Content.flatten, List.append_assoc,
    Content.breakOn?_anchor_self]
  simp [prepend]

/-- Once text stands for the default content, the anchors of the slots inside are gone. -/
theorem Ready.breakOn?_inside (h : Ready (.slot name body rest) d finished s) {more : List Char}
    (hmore : anchorMark ∉ more) {inner : String} (hinner : inner ∈ body.names) :
    breakOn? (anchor inner).toList (finished ++ more ++ (rest.append d).flatten) = none := by
  have hnot : inner ∉ (rest.append d).names := by
    rw [Content.names_append]
    exact fun hin => (List.nodup_append.1 h.nodup_slot.2).2.2 _ hinner _ hin rfl
  rw [Content.breakOn?_anchor_text (h.notMem_append hmore),
    Content.breakOn?_flatten_eq_none (Content.goodName_of_mem h.clean.2.1 hinner) h.clean_append
      hnot]
  rfl

theorem Ready.filled_text {chars : List Char} (h : Ready (.text chars rest) d finished s)
    {later : List String}
    (hrest : ∀ finished, Ready rest d finished s → Filled rest d finished later s) :
    Filled (.text chars rest) d finished later s := by
  obtain ⟨left, t, hpass, hqueue, hget⟩ := hrest (finished ++ chars)
    ⟨h.notMem_append h.clean.1, h.clean.2, h.behind, h.nodup, h.measured, h.plugs⟩
  refine ⟨left, t, ?_, hqueue, hget⟩
  simpa [Content.flatten, Content.names, Content.fill] using hpass

/-- Without plugs the default content stays and is worked off next. -/
theorem Ready.filled_kept (h : Ready (.slot name body rest) d finished s) (hp : s.plugs name = [])
    {later : List String} (hbody : Filled body (rest.append d) finished (rest.names ++ later) s)
    (hrest : ∀ finished t, Ready rest d finished t → Filled rest d finished later t) :
    Filled (.slot name body rest) d finished later s := by
  have hstep := reconcileSlot?_kept h.breakOn?_anchor hp
  obtain ⟨left₁, t₁, hpass₁, hqueue₁, hget₁⟩ := hbody
  have hfilled : anchorMark ∉ body.fill s.plugs := Content.notMem_fill h.plugs h.clean.2.1
  have hnext : Ready rest d (finished ++ body.fill s.plugs) t₁ :=
    h.after hfilled hqueue₁ fun other hother => hget₁ other fun hin =>
      hother (List.mem_cons_of_mem _ hin)
  obtain ⟨left₂, t₂, hpass₂, hqueue₂, hget₂⟩ := hrest _ t₁ hnext
  refine ⟨left₁ ++ left₂, t₂, ?_, hqueue₂.trans hqueue₁, fun other hother => ?_⟩
  · rw [Content.names, List.cons_append, List.append_assoc, reconcilePass_cons_of_some hstep,
      hpass₁,
      Content.flatten_append, ← List.append_assoc finished, hpass₂, plugs_congr hqueue₁,
      Content.fill_slot_of_nil hp]
    simp
  · rw [Content.names, List.mem_cons, List.mem_append, not_or, not_or] at hother
    rw [hget₂ other hother.2.2, hget₁ other hother.2.1]

/-- Plugs replace the default content, and the names of the slots inside are passed over. -/
theorem Ready.filled_replaced (h : Ready (.slot name body rest) d finished s)
    (hp : s.plugs name ≠ []) {later : List String}
    (hrest : ∀ finished t, Ready rest d finished t → Filled rest d finished later t) :
    Filled (.slot name body rest) d finished later s := by
  have hlength : s.lengths.get? name = some (byteLength body.flatten) :=
    h.measured (name, _) List.mem_cons_self
  have hstep := reconcileSlot?_filled h.breakOn?_anchor hp hlength
  have hjoined : anchorMark ∉ (joined (s.plugs name)).toList := notMem_joined (h.plugs name)
  generalize hs₁ : s.setLength name (byteLength (joined (s.plugs name)).toList) = s₁ at hstep
  have hqueue₁ : s₁.queue = s.queue := hs₁ ▸ queue_setLength s name _
  have hget₁ : ∀ other, other ≠ name → s₁.lengths.get? other = s.lengths.get? other :=
    fun other hne => hs₁ ▸ get?_setLength_of_ne hne _
  have hnext : Ready rest d (finished ++ (joined (s.plugs name)).toList) s₁ :=
    h.after hjoined hqueue₁ fun other hother => hget₁ other fun heq =>
      hother (heq ▸ List.mem_cons_self)
  obtain ⟨left₂, t₂, hpass₂, hqueue₂, hget₂⟩ := hrest _ s₁ hnext
  -- the slots inside are gone with the old content, so their searches find nothing
  refine ⟨body.names ++ left₂, t₂, ?_, hqueue₂.trans hqueue₁, fun other hother => ?_⟩
  · rw [Content.names, List.cons_append, List.append_assoc, reconcilePass_cons_of_some hstep,
      reconcilePass_append_of_absent fun inner => h.breakOn?_inside hjoined,
      Content.flatten_append, hpass₂, plugs_congr hqueue₁, Content.fill_slot_of_ne_nil hp]
    simp
  · rw [Content.names, List.mem_cons, List.mem_append, not_or, not_or] at hother
    rw [hget₂ other hother.2.2, hget₁ other hother.1]

/-- **A pass fills all content**, slots nested to any depth. -/
theorem Ready.filled (h : Ready c d finished s) (later : List String) :
    Filled c d finished later s := by
  induction c generalizing d finished later s with
  | done => exact ⟨[], s, rfl, rfl, fun _ _ => rfl⟩
  | text chars rest ih => exact h.filled_text fun _ hnext => ih hnext later
  | slot name body rest ihbody ihrest =>
    have hrest : ∀ finished t, Ready rest d finished t → Filled rest d finished later t :=
      fun _ _ hnext => ihrest hnext later
    by_cases hp : s.plugs name = []
    · exact h.filled_kept hp (ihbody h.inside _) hrest
    · exact h.filled_replaced hp hrest

end Pass

/-! ## Reconciling -/

/-- An output without marks is left alone from then on. -/
theorem reconcileAll_of_pass {s t : Slots} {pending remaining : List String}
    {output result : List Char} (hpass : s.reconcilePass pending output = (remaining, result, t))
    (hresult : anchorMark ∉ result) : (s.reconcileAll pending output).1 = result := by
  rw [reconcileAll, hpass]
  show (if remaining.length < pending.length then t.reconcileAll remaining result
    else (result, t)).1 = result
  split
  · rw [reconcileAll_of_absent]
    intro name _
    rw [Content.toList_anchor]
    exact breakOn?_of_notMem hresult
  · rfl

/-- **Slots with nested defaults are reconciled by structure**: for output of text and slots nested
to any depth, with the slots noted outermost first and measured exactly, and for any queue of plugs
that hold no anchors themselves, reconciling replaces every slot that has plugs by what its plugs
join to, takes the anchor off every other one, and keeps all other text as it is. -/
theorem reconcile_nested (content : Content) (s : Slots) (hclean : content.Clean)
    (hnodup : content.names.Nodup) (hlengths : s.lengths.entries = content.recorded)
    (hplugs : ∀ entry ∈ s.queue, anchorMark ∉ entry.2.content.toList) :
    (s.reconcile (String.ofList content.flatten)).1 =
      String.ofList (content.fill s.plugs) := by
  have hkeys : s.lengths.keys = content.names := by
    rw [OrderedMap.keys, hlengths, Content.map_fst_recorded]
  have hdistinct : s.lengths.Distinct := by
    rw [OrderedMap.Distinct, hkeys]
    exact hnodup
  have hunmarked : ∀ name, Unmarked (s.plugs name) := by
    intro name plug hplug
    obtain ⟨entry, hentry, rfl⟩ := List.mem_map.1 hplug
    exact hplugs entry (List.mem_filter.1 hentry).1
  have hready : Ready content .done [] s :=
    ⟨by simp, hclean, trivial, by simpa [Content.names] using hnodup,
      fun e he => OrderedMap.get?_of_mem hdistinct (hlengths ▸ he), hunmarked⟩
  obtain ⟨left, t, hpass, -, -⟩ := hready.filled []
  have hpass' : s.reconcilePass content.names content.flatten =
      (left, content.fill s.plugs, t) := by
    simpa [Content.flatten, reconcilePass] using hpass
  have hall := reconcileAll_of_pass hpass' (Content.notMem_fill hunmarked hclean)
  show String.ofList (s.reconcileAll s.lengths.keys (String.ofList content.flatten).toList).1 = _
  rw [hkeys, String.toList_ofList, hall]

/-- A slot inside the default content of another, and one that is lost with the slot around it. -/
def nestedContent : Content :=
  .slot "page" (.text ['a'] (.slot "title" (.text ['é'] .done) .done))
    (.text ['.'] (.slot "side" (.text ['x'] (.slot "lost" (.text ['y'] .done) .done)) .done))

/-- Plugs for all of these slots but the first. -/
def nestedQueue : List (String × Plug) :=
  [("side", ⟨"C", true⟩), ("title", ⟨"Z", false⟩), ("title", ⟨"A", false⟩), ("title", ⟨"B", true⟩),
    ("lost", ⟨"D", false⟩)]

theorem reconcile_nested_page :
    nestedContent.Clean ∧ nestedContent.names.Nodup ∧
      (∀ entry ∈ nestedQueue, anchorMark ∉ entry.2.content.toList) ∧
      ((Slots.mk ⟨nestedContent.recorded⟩ nestedQueue).reconcile
        (String.ofList nestedContent.flatten)).1 = "aAB.C" :=
  ⟨by decide, by decide, by decide,
    (reconcile_nested nestedContent ⟨⟨nestedContent.recorded⟩, nestedQueue⟩ (by decide) (by decide)
      rfl (by decide)).trans (by decide)⟩

end TagTemplate.Slots
