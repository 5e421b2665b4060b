import TagTemplate.Proofs.Slots.Expansion

/-!
# How slots and output come about together

While an output is put together, slots are noted down and plugs are queued. `Grows` says what one
piece of the work does to both: the output is content whose slots are new, as are the slots in the
plugs that were queued, and no slot stands in two places. Pieces of work can be done one after the
other, their output may be dropped, and it may become the content of a slot or of a plug.

- `Content.Fits`: slots that may get plugs hold plain text of the length noted;
- `Grows`: what a piece of work does, with one lemma for each way of putting pieces together;
- `Grows.spliceable`: **what has grown from nothing fits together**, so that it can be reconciled;
- `Spliceable.notMem_reconcile`: no anchor is left then.
-/

namespace TagTemplate.Slots

open TagTemplate.Text Content

/-- Every slot that may be plugged holds plain text, as long as noted. -/
def Content.Fits (plugged : String → Prop) (lengths : OrderedMap Nat) : Content → Prop
  | .done => True
  | .text _ rest => rest.Fits plugged lengths
  | .slot name body rest =>
    (plugged name → body.names = [] ∧ lengths.get? name = some (byteLength body.flatten)) ∧
      body.Fits plugged lengths ∧ rest.Fits plugged lengths

variable {plugged : String → Prop} {lengths lengths' : OrderedMap Nat} {s t u : Slots}
  {c d : Content} {is js : List Insertion}

theorem Content.fits_append (hc : c.Fits plugged lengths) (hd : d.Fits plugged lengths) :
    (c.append d).Fits plugged lengths := by
  induction c with
  | done => exact hd
  | text chars rest ih => exact ih hc
  | slot name body rest _ ih => exact ⟨hc.1, hc.2.1, ih hc.2.2⟩

/-- Only the lengths of the slots inside matter. -/
theorem Content.Fits.congr (h : c.Fits plugged lengths)
    (hget : ∀ name ∈ c.names, lengths'.get? name = lengths.get? name) :
    c.Fits plugged lengths' := by
  induction c with
  | done => trivial
  | text chars rest ih => exact ih h hget
  | slot name body rest ihbody ihrest =>
    refine ⟨fun hname => ?_, ihbody h.2.1 fun n hn => hget n ?_, ihrest h.2.2 fun n hn => hget n ?_⟩
    · rw [hget name List.mem_cons_self]
      exact h.1 hname
    · exact List.mem_cons_of_mem _ (List.mem_append_left _ hn)
    · exact List.mem_cons_of_mem _ (List.mem_append_right _ hn)

/-- Content is put together well: anchors can be told from text, and lengths are right. -/
structure Content.Sound (plugged : String → Prop) (lengths : OrderedMap Nat) (c : Content) :
    Prop where
  clean : c.Clean
  fits : c.Fits plugged lengths

theorem Content.sound_text {chars : List Char} (h : anchorMark ∉ chars) :
    (Content.text chars .done).Sound plugged lengths :=
  ⟨⟨h, trivial⟩, trivial⟩

theorem Content.sound_append (hc : c.Sound plugged lengths) (hd : d.Sound plugged lengths) :
    (c.append d).Sound plugged lengths :=
  ⟨clean_append hc.clean hd.clean, fits_append hc.fits hd.fits⟩

/-- The parts of sound content are sound. -/
theorem Content.Sound.of_append (h : (c.append d).Sound plugged lengths) :
    c.Sound plugged lengths ∧ d.Sound plugged lengths := by
  induction c with
  | done => exact ⟨⟨trivial, trivial⟩, h⟩
  | text chars rest ih =>
    obtain ⟨hrest, hd⟩ := ih ⟨h.clean.2, h.fits⟩
    exact ⟨⟨⟨h.clean.1, hrest.clean⟩, hrest.fits⟩, hd⟩
  | slot name body rest _ ih =>
    obtain ⟨hrest, hd⟩ := ih ⟨h.clean.2.2, h.fits.2.2⟩
    exact ⟨⟨⟨h.clean.1, h.clean.2.1, hrest.clean⟩, h.fits.1, h.fits.2.1, hrest.fits⟩, hd⟩

/-- An output and the contents of the plugs queued beside it. -/
def pieces (c : Content) (is : List Insertion) : List Content := c :: is.map Insertion.content

/-- What a piece of work does to the slots while it makes the output `c` and queues the plugs
`is`. -/
structure Grows (plugged : String → Prop) (s t : Slots) (c : Content) (is : List Insertion) :
    Prop where
  queue : t.queue = s.queue ++ is.map Insertion.plug
  lengths : s.lengths.entries <+: t.lengths.entries
  distinct : s.lengths.Distinct → t.lengths.Distinct
  good : ∀ name ∈ t.lengths.keys, name ∉ s.lengths.keys → GoodName name
  /-- Only new slots stand in the output and in the plugs, each of them once. -/
  fresh : ∀ name, ((pieces c is).flatMap names).count name ≤
    if name ∈ t.lengths.keys ∧ name ∉ s.lengths.keys then 1 else 0
  sound : ∀ d ∈ pieces c is, d.Sound plugged t.lengths
  targets : ∀ i ∈ is, plugged i.target

namespace Grows

/-- The slots in the pieces are noted, and they were not before. -/
theorem noted (h : Grows plugged s t c is) (hd : d ∈ pieces c is) {name : String}
    (hname : name ∈ d.names) : name ∈ t.lengths.keys ∧ name ∉ s.lengths.keys := by
  have hfresh := h.fresh name
  have hcount := List.count_pos_iff.2 (List.mem_flatMap.2 ⟨d, hd, hname⟩)
  by_contra hnot
  rw [if_neg hnot] at hfresh
  omega

/-- What was noted before still is. -/
theorem known (h : Grows plugged s t c is) {name : String} (hname : name ∈ s.lengths.keys) :
    name ∈ t.lengths.keys :=
  (h.lengths.map Prod.fst).subset hname

/-- The pieces fit all lengths that are the same for the new slots. -/
theorem sound_congr (h : Grows plugged s t c is)
    (hget : ∀ name ∈ t.lengths.keys, name ∉ s.lengths.keys →
      lengths.get? name = t.lengths.get? name) : ∀ d ∈ pieces c is, d.Sound plugged lengths := by
  intro d hd
  obtain ⟨hclean, hfits⟩ := h.sound d hd
  refine ⟨hclean, hfits.congr fun name hname => ?_⟩
  obtain ⟨hmem, hnew⟩ := h.noted hd hname
  exact hget name hmem hnew

/-- No work. -/
theorem refl (s : Slots) : Grows plugged s s .done [] where
  queue := (List.append_nil _).symm
  lengths := List.prefix_rfl
  distinct := id
  good _ hmem hnot := absurd hmem hnot
  fresh _ := Nat.zero_le _
  sound := List.forall_mem_singleton.2 ⟨trivial, trivial⟩
  targets := List.forall_mem_nil _

/-- Other output in place of what was made, without any slot that was not there. -/
theorem mono (h : Grows plugged s t c is) (hd : d.Sound plugged t.lengths)
    (hnames : d.names.Sublist c.names) : Grows plugged s t d is where
  queue := h.queue
  lengths := h.lengths
  distinct := h.distinct
  good := h.good
  fresh name := by
    have hfresh := h.fresh name
    have hle := hnames.count_le name
    rw [pieces, List.flatMap_cons, List.count_append] at hfresh ⊢
    omega
  sound := List.forall_mem_cons.2 ⟨hd, (List.forall_mem_cons.1 h.sound).2⟩
  targets := h.targets

/-- Text in place of the output. -/
theorem text (h : Grows plugged s t c is) {chars : List Char} (hchars : anchorMark ∉ chars) :
    Grows plugged s t (.text chars .done) is :=
  h.mono (sound_text hchars) (List.nil_sublist _)

/-- Text around the output. -/
theorem surround (h : Grows plugged s t c is) {before after : List Char}
    (hbefore : anchorMark ∉ before) (hafter : anchorMark ∉ after) :
    Grows plugged s t (.text before (c.append (.text after .done))) is := by
  have hc : c.Sound plugged t.lengths := (List.forall_mem_cons.1 h.sound).1
  refine h.mono ?_ ?_
  · exact sound_append (sound_text hbefore) (sound_append hc (sound_text hafter))
  · rw [names, names_append, names, names, List.append_nil]

/-- **One piece of work after the other.** -/
theorem trans (h : Grows plugged s t c is) (h' : Grows plugged t u d js) :
    Grows plugged s u (c.append d) (is ++ js) where
  queue := by rw [h'.queue, h.queue, List.map_append, List.append_assoc]
  lengths := h.lengths.trans h'.lengths
  distinct hs := h'.distinct (h.distinct hs)
  good name hu hs := by
    by_cases ht : name ∈ t.lengths.keys
    · exact h.good name ht hs
    · exact h'.good name hu ht
  fresh name := by
    have hfirst := h.fresh name
    have hsecond := h'.fresh name
    -- a slot of the first piece is noted by then, so the second one has it no more
    simp only [pieces, List.flatMap_cons, List.map_append, List.flatMap_append, names_append,
      List.count_append] at hfirst hsecond ⊢
    by_cases hs : name ∈ s.lengths.keys
    · have ht := h.known hs
      simp only [hs, ht, not_true, and_false, if_false] at hfirst hsecond ⊢
      omega
    · by_cases ht : name ∈ t.lengths.keys
      · have hu := h'.known ht
        simp only [hs, ht, hu, not_true, not_false_eq_true, and_false, and_true, if_true,
          if_false] at hfirst hsecond ⊢
        omega
      · simp only [hs, ht, not_false_eq_true, and_true, if_false] at hfirst hsecond ⊢
        omega
  sound := by
    have hkept : ∀ e ∈ pieces c is, e.Sound plugged u.lengths :=
      h.sound_congr fun _ hmem _ => OrderedMap.get?_of_prefix h'.lengths hmem
    rw [pieces, List.forall_mem_cons, List.forall_mem_map] at hkept
    obtain ⟨hc, his⟩ := hkept
    have hlast := h'.sound
    rw [pieces, List.forall_mem_cons, List.forall_mem_map] at hlast
    rw [pieces, List.forall_mem_cons, List.forall_mem_map]
    refine ⟨sound_append hc hlast.1, fun i hi => ?_⟩
    rcases List.mem_append.1 hi with hi | hi
    · exact his i hi
    · exact hlast.2 i hi
  targets i hi := by
    rcases List.mem_append.1 hi with hi | hi
    · exact h.targets i hi
    · exact h'.targets i hi

/-- The output becomes the content of a plug. -/
theorem plug (h : Grows plugged s t c is) {target : String} (htarget : plugged target)
    (append : Bool) :
    Grows plugged s (t.queuePlug target ⟨String.ofList c.flatten, append⟩) .done
      (is ++ [⟨target, c, append⟩]) where
  queue := by
    rw [queuePlug, h.queue, List.map_append, List.append_assoc]
    rfl
  lengths := h.lengths
  distinct := h.distinct
  good := h.good
  fresh name := by
    have hfresh := h.fresh name
    simp only [pieces, List.flatMap_cons, List.map_append, List.flatMap_append, List.count_append,
      List.map_cons, List.map_nil, List.flatMap_nil, names, List.count_nil] at hfresh ⊢
    exact Nat.le_trans (by omega) hfresh
  sound := by
    have hsound := h.sound
    rw [pieces, List.forall_mem_cons, List.forall_mem_map] at hsound
    rw [pieces, List.forall_mem_cons, List.forall_mem_map]
    refine ⟨⟨trivial, trivial⟩, fun i hi => ?_⟩
    rcases List.mem_append.1 hi with hi | hi
    · exact hsound.2 i hi
    · rw [List.mem_singleton.1 hi]
      exact hsound.1
  targets i hi := by
    rcases List.mem_append.1 hi with hi | hi
    · exact h.targets i hi
    · rw [List.mem_singleton.1 hi]
      exact htarget

/-- The slots in the work done for a new slot are other ones, so that it stands around them only. -/
theorem fresh_slot {name : String} (hnew : name ∉ s.lengths.keys)
    (h : Grows plugged { s with lengths := s.lengths.insert name 0 } t c is) (other : String) :
    ((pieces (.slot name c .done) is).flatMap names).count other ≤
      if other ∈ t.lengths.keys ∧ other ∉ s.lengths.keys then 1 else 0 := by
  have hfresh := h.fresh other
  have hmem : name ∈ t.lengths.keys := h.known (OrderedMap.mem_keys_insert.2 (.inr rfl))
  simp only [OrderedMap.mem_keys_insert, pieces, List.flatMap_cons, names, List.count_append,
    List.count_cons, List.append_nil, List.cons_append] at hfresh ⊢
  by_cases heq : other = name
  · subst heq
    simp only [hmem, hnew, or_true, not_true, and_false, if_false, not_false_eq_true, and_true,
      if_true, beq_self_eq_true] at hfresh ⊢
    omega
  · simp only [heq, or_false] at hfresh
    rw [if_neg (by simpa using Ne.symm heq)]
    exact Nat.le_trans (by omega) hfresh

/-- **The output becomes the content of a new slot**, whose length is noted after. -/
theorem slot {name : String} (hnew : s.lengths.contains name = false) (hname : GoodName name)
    (h : Grows plugged (s.recordSlot name).2 t c is) (hplain : plugged name → c.names = []) :
    Grows plugged s (t.setLength name (byteLength c.flatten)) (.slot name c .done) is := by
  rw [recordSlot_new hnew] at h
  have hkey := OrderedMap.notMem_keys_of_contains hnew
  have hrecorded : name ∈ (s.lengths.insert name 0).keys := OrderedMap.mem_keys_insert.2 (.inr rfl)
  have hmem : name ∈ t.lengths.keys := h.known hrecorded
  have hset : t.setLength name (byteLength c.flatten) =
      { t with lengths := t.lengths.insert name (byteLength c.flatten) } :=
    if_pos (OrderedMap.contains_of_mem_keys hmem)
  have hkeys : (t.lengths.insert name (byteLength c.flatten)).keys = t.lengths.keys := by
    rw [OrderedMap.keys_insert, if_pos hmem]
  -- the slot is noted before the work, so it stands in none of the pieces
  have hothers : ∀ d ∈ pieces c is,
      d.Sound plugged (t.lengths.insert name (byteLength c.flatten)) := by
    refine h.sound_congr fun other _ hother => ?_
    rw [OrderedMap.get?_insert, if_neg]
    rintro rfl
    exact hother hrecorded
  rw [pieces, List.forall_mem_cons] at hothers
  rw [hset]
  refine
    { queue := h.queue
      lengths := ?_
      distinct := fun hs =>
        OrderedMap.distinct_insert (h.distinct (OrderedMap.distinct_insert hs _ _)) _ _
      good := fun other hmem hnot => ?_
      fresh := fun other => ?_
      sound := List.forall_mem_cons.2
        ⟨⟨⟨hname, hothers.1.clean, trivial⟩, ?_, hothers.1.fits, trivial⟩, hothers.2⟩
      targets := h.targets }
  · have hfirst : s.lengths.entries <+: (s.lengths.insert name 0).entries := by
      rw [OrderedMap.entries_insert_of_notMem hkey]
      exact List.prefix_append ..
    exact OrderedMap.prefix_insertEntry (hfirst.trans h.lengths) hkey _
  · rw [hkeys] at hmem
    by_cases heq : other = name
    · exact heq ▸ hname
    · exact h.good other hmem fun hin => hnot ((OrderedMap.mem_keys_insert.1 hin).resolve_right heq)
  · rw [hkeys]
    exact fresh_slot hkey h other
  · exact fun hplugged => ⟨hplain hplugged, OrderedMap.get?_insert_self ..⟩

/-- **What has grown from nothing fits together.** -/
theorem spliceable (h : Grows plugged .empty t c is) : Spliceable t is c := by
  have hqueue : t.queue = is.map Insertion.plug := h.queue
  have hsound := h.sound
  rw [pieces, List.forall_mem_cons, List.forall_mem_map] at hsound
  have hmeasured : ∀ d : Content, d.Fits plugged t.lengths → Measured t d := by
    intro d
    induction d with
    | done => exact fun _ => trivial
    | text chars rest ih => exact ih
    | slot name body rest ihbody ihrest =>
      intro hd
      refine ⟨fun length hlength hplugs => ?_, ihbody hd.2.1, ihrest hd.2.2⟩
      -- a slot with plugs is the target of one of them
      obtain ⟨plug, hplug⟩ := List.exists_mem_of_ne_nil _ hplugs
      rw [plugs_eq_map hqueue, List.mem_map] at hplug
      obtain ⟨i, hi, -⟩ := hplug
      obtain ⟨hmem, htarget⟩ := List.mem_filter.1 hi
      obtain ⟨hnames, hget⟩ := hd.1 (eq_of_beq htarget ▸ h.targets i hmem)
      rw [hget] at hlength
      exact ⟨hnames, (Option.some.inj hlength).symm⟩
  exact {
    queue := hqueue
    distinct := h.distinct List.nodup_nil
    good := fun name hname => h.good name hname List.not_mem_nil
    clean := hsound.1.clean
    clean_insertion := fun i hi => (hsound.2 i hi).clean
    measured := hmeasured c hsound.1.fits
    measured_insertion := fun i hi => hmeasured i.content (hsound.2 i hi).fits
    once := fun name hname => by
      have hfresh := h.fresh name
      rw [if_pos ⟨hname, List.not_mem_nil⟩] at hfresh
      rwa [pieces, List.flatMap_cons, List.flatMap_map] at hfresh }

end Grows

/-! ## What is left of anchors -/

/-- Where all slots are noted, nothing is left of the anchors. -/
theorem Expands.notMem {noted : List String} {fillings : String → Option Content}
    {output : List Char}
    (h : Expands noted fillings c output)
    (hfillings : ∀ name content, fillings name = some content →
      content.Clean ∧ ∀ other ∈ content.names, other ∈ noted)
    (hclean : c.Clean) (hnoted : ∀ name ∈ c.names, name ∈ noted) : anchorMark ∉ output := by
  -- a slot that nobody noted would leave its anchor, every other anchor is worked off
  induction h with
  | done => exact List.not_mem_nil
  | text chars _ ih =>
    rw [List.mem_append, not_or]
    exact ⟨hclean.1, ih hclean.2 hnoted⟩
  | filled body _ hfilling _ _ ihcontent ihrest =>
    obtain ⟨hcontent, hnames⟩ := hfillings _ _ hfilling
    rw [List.mem_append, not_or]
    refine ⟨ihcontent hcontent hnames, ihrest hclean.2.2 fun name hname => hnoted name ?_⟩
    exact List.mem_cons_of_mem _ (List.mem_append_right _ hname)
  | kept _ _ _ _ ihbody ihrest =>
    rw [List.mem_append, not_or]
    refine ⟨ihbody hclean.2.1 fun name hname => hnoted name ?_,
      ihrest hclean.2.2 fun name hname => hnoted name ?_⟩
    · exact List.mem_cons_of_mem _ (List.mem_append_left _ hname)
    · exact List.mem_cons_of_mem _ (List.mem_append_right _ hname)
  | foreign hforeign => exact absurd (hnoted _ List.mem_cons_self) hforeign

/-- **No anchor is left** of slots that were all noted, if they fit together. -/
theorem Spliceable.notMem_reconcile (h : Spliceable t is c)
    (hnoted : ∀ d ∈ pieces c is, d.names ⊆ t.lengths.keys) :
    anchorMark ∉ (t.reconcile (String.ofList c.flatten)).1.toList := by
  obtain ⟨last, hlast, -, -, hexpands⟩ := h.reconcile
  have hfillings : ∀ name content, Insertion.filling is name = some content →
      content.Clean ∧ ∀ other ∈ content.names, other ∈ t.lengths.keys := by
    intro name content hfilling
    refine filling_induction (P := fun d => d.Clean ∧ ∀ other ∈ d.names, other ∈ t.lengths.keys)
      ⟨trivial, List.forall_mem_nil _⟩ (fun d e hd he => ⟨clean_append hd.1 he.1, ?_⟩)
      (fun i hi => ⟨h.clean_insertion i hi, fun other hother => ?_⟩) hfilling
    · rw [names_append]
      exact List.forall_mem_append.2 ⟨hd.2, he.2⟩
    · exact hnoted _ (List.mem_cons_of_mem _ (List.mem_map_of_mem hi)) hother
  rw [hlast, String.toList_ofList]
  exact hexpands.notMem hfillings h.clean fun name hname => hnoted c List.mem_cons_self hname

/-- No anchor is left in the reconciled output of what has grown from nothing. -/
theorem Grows.notMem_reconcile (h : Grows plugged .empty t c is) :
    anchorMark ∉ (t.reconcile (String.ofList c.flatten)).1.toList :=
  h.spliceable.notMem_reconcile fun _ hd _ hname => (h.noted hd hname).1

end TagTemplate.Slots
