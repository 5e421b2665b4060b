import TagTemplate.Proofs.Text.Search
import TagTemplate.Slots

/-!
# Output made of text and slots

`Content` is what rendering composes: text, and slots in front of their default contents, to any
depth. `Content.flatten` is the output it stands for. In well-marked content (`Clean`) an anchor is
found exactly where its slot is, although anchors stand right next to each other and to text that
may spell parts of them.

- `breakOn?_flatten_of_notMem`: content without a slot does not hold its anchor, wherever it stands;
- `Found`: an anchor is found in front of the default content of its slot, and everything else stays
  where it is;
- `breakOn?_flatten_of_mem`: that of a slot that occurs once is found.
-/

namespace TagTemplate.Slots

open TagTemplate.Text

/-- Text and slots in order; a slot holds its default content. -/
inductive Content where
  | done
  | text (chars : List Char) (rest : Content)
  | slot (name : String) (body rest : Content)

namespace Content

/-- The output that content stands for. -/
def flatten : Content → List Char
  | done => []
  | text chars rest => chars ++ rest.flatten
  | slot name body rest => (anchor name).toList ++ (body.flatten ++ rest.flatten)

/-- The names of the slots, outermost first in the order of the output. -/
def names : Content → List String
  | done => []
  | text _ rest => rest.names
  | slot name body rest => name :: (body.names ++ rest.names)

/-- One content after the other. -/
def append : Content → Content → Content
  | done, more => more
  | text chars rest, more => text chars (rest.append more)
  | slot name body rest, more => slot name body (rest.append more)

/-- A name that an anchor may hold: it has no mark, and it is not the word inside every anchor. -/
structure GoodName (name : String) : Prop where
  unmarked : anchorMark ∉ name.toList
  ne_slot : name ≠ "slot"

/-- No text has the mark in it, and all names are good. -/
def Clean : Content → Prop
  | done => True
  | text chars rest => anchorMark ∉ chars ∧ rest.Clean
  | slot name body rest => GoodName name ∧ body.Clean ∧ rest.Clean

instance (name : String) : Decidable (GoodName name) :=
  decidable_of_iff (anchorMark ∉ name.toList ∧ name ≠ "slot")
    ⟨fun h => ⟨h.1, h.2⟩, fun h => ⟨h.unmarked, h.ne_slot⟩⟩

instance decidableClean : (c : Content) → Decidable c.Clean
  | done => .isTrue trivial
  | text _ rest =>
    haveI := decidableClean rest
    inferInstanceAs (Decidable (_ ∧ _))
  | slot _ body rest =>
    haveI := decidableClean body
    haveI := decidableClean rest
    inferInstanceAs (Decidable (_ ∧ _ ∧ _))

/-- Puts something else in the place of a slot, made from its default content. -/
def replace (target : String) (f : Content → Content) : Content → Content
  | done => done
  | text chars rest => text chars (rest.replace target f)
  | slot name body rest =>
    if name = target then (f body).append (rest.replace target f)
    else slot name (body.replace target f) (rest.replace target f)

@[simp] theorem flatten_append (c d : Content) : (c.append d).flatten = c.flatten ++ d.flatten := by
  induction c with
  | done => rfl
  | text chars rest ih => simp [append, flatten, ih]
  | slot name body rest _ ih => simp [append, flatten, ih]

@[simp] theorem names_append (c d : Content) : (c.append d).names = c.names ++ d.names := by
  induction c with
  | done => rfl
  | text chars rest ih => simp [append, names, ih]
  | slot name body rest _ ih => simp [append, names, ih]

theorem clean_append {c d : Content} (hc : c.Clean) (hd : d.Clean) : (c.append d).Clean := by
  induction c with
  | done => exact hd
  | text chars rest ih => exact ⟨hc.1, ih hc.2⟩
  | slot name body rest _ ih => exact ⟨hc.1, hc.2.1, ih hc.2.2⟩

theorem goodName_of_mem {c : Content} (hc : c.Clean) {name : String} (h : name ∈ c.names) :
    GoodName name := by
  induction c with
  | done => cases h
  | text chars rest ih => exact ih hc.2 h
  | slot other body rest ihbody ihrest =>
    rcases List.mem_cons.1 h with rfl | h
    · exact hc.1
    · rcases List.mem_append.1 h with h | h
      · exact ihbody hc.2.1 h
      · exact ihrest hc.2.2 h

theorem replace_of_notMem {target : String} (f : Content → Content) {c : Content}
    (h : target ∉ c.names) : c.replace target f = c := by
  induction c with
  | done => rfl
  | text chars rest ih => rw [replace, ih h]
  | slot name body rest ihbody ihrest =>
    rw [names, List.mem_cons, List.mem_append, not_or, not_or] at h
    rw [replace, if_neg (Ne.symm h.1), ihbody h.2.1, ihrest h.2.2]

theorem clean_replace {target : String} {f : Content → Content}
    (hf : ∀ body, body.Clean → (f body).Clean) {c : Content} (hc : c.Clean) :
    (c.replace target f).Clean := by
  induction c with
  | done => trivial
  | text chars rest ih => exact ⟨hc.1, ih hc.2⟩
  | slot name body rest ihbody ihrest =>
    rw [replace]
    split
    · exact clean_append (hf body hc.2.1) (ihrest hc.2.2)
    · exact ⟨hc.1, ihbody hc.2.1, ihrest hc.2.2⟩

/-! ## Anchors -/

/-- What follows the first mark of an anchor. -/
def anchorTail (name : String) : List Char :=
  ['s', 'l', 'o', 't', anchorMark] ++ (name.toList ++ [anchorMark])

theorem toList_anchor (name : String) : (anchor name).toList = anchorMark :: anchorTail name := by
  simp [anchor, anchorTail, anchorMark, String.toList_append, toString]

/-- Nothing that ends the part after a mark completes an anchor of the name: even behind text that
spells `slot` there is no mark followed by the name. -/
def Quiet (name : String) (cs : List Char) : Prop :=
  ∀ text, anchorMark ∉ text → ¬ anchorTail name <+: text ++ cs

theorem notMem_slot : anchorMark ∉ ['s', 'l', 'o', 't'] := by decide

theorem quiet_nil (name : String) : Quiet name [] := by
  intro text htext h
  refine htext ?_
  rw [List.append_nil] at h
  exact h.subset (by simp [anchorTail])

theorem quiet_text {name : String} {chars cs : List Char} (hchars : anchorMark ∉ chars)
    (h : Quiet name cs) : Quiet name (chars ++ cs) := by
  intro text htext
  rw [← List.append_assoc]
  refine h (text ++ chars) ?_
  rw [List.mem_append, not_or]
  exact ⟨htext, hchars⟩

theorem quiet_anchor {name other : String} (hname : GoodName name) (cs : List Char) :
    Quiet name ((anchor other).toList ++ cs) := by
  intro text htext h
  rw [toList_anchor] at h
  have h' : ['s', 'l', 'o', 't'] ++ anchorMark :: (name.toList ++ [anchorMark]) <+:
      text ++ anchorMark :: (anchorTail other ++ cs) := h
  -- marks only match marks, so the name would have to be the word `slot`
  obtain ⟨-, h'⟩ := eq_of_start_mark notMem_slot htext h'
  have h'' : name.toList ++ anchorMark :: [] <+:
      ['s', 'l', 'o', 't'] ++ anchorMark :: (other.toList ++ [anchorMark] ++ cs) := by
    simpa [anchorTail] using h'
  obtain ⟨hslot, -⟩ := eq_of_start_mark hname.unmarked notMem_slot h''
  exact hname.ne_slot (String.toList_inj.1 hslot)

theorem quiet_flatten {name : String} (hname : GoodName name) {c : Content} (hc : c.Clean)
    {cs : List Char} (h : Quiet name cs) : Quiet name (c.flatten ++ cs) := by
  induction c with
  | done => exact h
  | text chars rest ih =>
    rw [flatten, List.append_assoc]
    exact quiet_text hc.1 (ih hc.2)
  -- an anchor comes first: what is behind it no longer matters
  | slot other body rest =>
    rw [flatten, List.append_assoc]
    exact quiet_anchor hname _

/-- An anchor of another name is passed over as a whole. -/
theorem breakOn?_anchor_of_ne {name other : String} (hname : GoodName name)
    (hother : GoodName other) (hne : name ≠ other) {cs : List Char} (hcs : Quiet name cs) :
    breakOn? (anchor name).toList ((anchor other).toList ++ cs) =
      (breakOn? (anchor name).toList cs).map (prepend (anchor other).toList) := by
  rw [toList_anchor name, toList_anchor other]
  -- the first mark: the names differ
  have hfirst : ¬ anchorMark :: anchorTail name <+: anchorMark :: (anchorTail other ++ cs) := by
    intro h
    have h' : name.toList ++ anchorMark :: [] <+: other.toList ++ anchorMark :: cs := by
      simpa [anchorTail] using (List.cons_prefix_cons.1 h).2
    exact hne (String.toList_inj.1 (eq_of_start_mark hname.unmarked hother.unmarked h').1)
  -- the second one: the other name is not the word inside of anchors
  have hsecond : ¬ anchorMark :: anchorTail name <+:
      anchorMark :: (other.toList ++ anchorMark :: cs) := by
    intro h
    have h' : ['s', 'l', 'o', 't'] ++ anchorMark :: (name.toList ++ [anchorMark]) <+:
        other.toList ++ anchorMark :: cs := (List.cons_prefix_cons.1 h).2
    exact hother.ne_slot
      (String.toList_inj.1 (eq_of_start_mark notMem_slot hother.unmarked h').1.symm)
  -- the last one: what follows is quiet
  have hthird : ¬ anchorMark :: anchorTail name <+: anchorMark :: cs := fun h =>
    hcs [] (by simp) (List.cons_prefix_cons.1 h).2
  have hsplit : anchorTail other ++ cs =
      ['s', 'l', 'o', 't'] ++ anchorMark :: (other.toList ++ anchorMark :: cs) := by
    simp [anchorTail]
  rw [List.cons_append, breakOn?_cons_of_notStart hfirst, hsplit,
    breakOn?_append_of_notMem notMem_slot, breakOn?_cons_of_notStart hsecond,
    breakOn?_append_of_notMem hother.unmarked, breakOn?_cons_of_notStart hthird]
  simp only [map_prepend_prepend]
  congr 2

theorem breakOn?_anchor_self (name : String) (cs : List Char) :
    breakOn? (anchor name).toList ((anchor name).toList ++ cs) = some ([], cs) :=
  breakOn?_append_self (by simp [toList_anchor]) cs

/-- There is a mark in clean content exactly if there is a slot. -/
theorem mem_flatten_iff {c : Content} (hc : c.Clean) : anchorMark ∈ c.flatten ↔ c.names ≠ [] := by
  induction c with
  | done => simp [flatten, names]
  | text chars rest ih =>
    rw [flatten, List.mem_append, or_iff_right hc.1]
    exact ih hc.2
  | slot name body rest =>
    refine ⟨fun _ => List.cons_ne_nil _ _, fun _ => List.mem_append_left _ ?_⟩
    rw [toList_anchor]
    exact List.mem_cons_self

/-- Text without marks is passed over in the search for an anchor. -/
theorem breakOn?_anchor_text {name : String} {chars : List Char} (h : anchorMark ∉ chars)
    (cs : List Char) :
    breakOn? (anchor name).toList (chars ++ cs) =
      (breakOn? (anchor name).toList cs).map (prepend chars) := by
  rw [toList_anchor]
  exact breakOn?_append_of_notMem h cs

/-! ## Where an anchor is found -/

/-- Content without a slot of the name is passed over as a whole. -/
theorem breakOn?_flatten_of_notMem {name : String} (hname : GoodName name) {c : Content}
    (hc : c.Clean) (h : name ∉ c.names) {cs : List Char} (hcs : Quiet name cs) :
    breakOn? (anchor name).toList (c.flatten ++ cs) =
      (breakOn? (anchor name).toList cs).map (prepend c.flatten) := by
  induction c generalizing cs with
  | done => simp [flatten]
  | text chars rest ih =>
    rw [flatten, List.append_assoc, breakOn?_anchor_text hc.1, ih hc.2 h hcs,
      map_prepend_prepend]
  | slot other body rest ihbody ihrest =>
    rw [names, List.mem_cons, List.mem_append, not_or, not_or] at h
    have hrest : Quiet name (rest.flatten ++ cs) := quiet_flatten hname hc.2.2 hcs
    have hbody : Quiet name (body.flatten ++ (rest.flatten ++ cs)) :=
      quiet_flatten hname hc.2.1 hrest
    rw [flatten, List.append_assoc, List.append_assoc,
      breakOn?_anchor_of_ne hname hc.1 h.1 hbody, ihbody hc.2.1 h.2.1 hrest,
      ihrest hc.2.2 h.2.2 hcs, map_prepend_prepend, map_prepend_prepend, List.append_assoc]

theorem breakOn?_flatten_eq_none {name : String} (hname : GoodName name) {c : Content}
    (hc : c.Clean) (h : name ∉ c.names) : breakOn? (anchor name).toList c.flatten = none := by
  have := breakOn?_flatten_of_notMem hname hc h (quiet_nil name)
  rw [List.append_nil] at this
  rw [this, toList_anchor]
  rfl

/-- A slot of content with its default content. -/
inductive HasSlot (name : String) (body : Content) : Content → Prop
  | here (rest : Content) : HasSlot name body (slot name body rest)
  | text (chars : List Char) {rest : Content} (h : HasSlot name body rest) :
      HasSlot name body (text chars rest)
  | inside (other : String) {inner : Content} (rest : Content) (h : HasSlot name body inner) :
      HasSlot name body (slot other inner rest)
  | after (other : String) (inner : Content) {rest : Content} (h : HasSlot name body rest) :
      HasSlot name body (slot other inner rest)

theorem HasSlot.mem_names {name : String} {body c : Content} (h : HasSlot name body c) :
    name ∈ c.names := by
  induction h with
  | here rest => exact List.mem_cons_self
  | text chars _ ih => exact ih
  | inside other rest _ ih => exact List.mem_cons_of_mem _ (List.mem_append_left _ ih)
  | after other inner _ ih => exact List.mem_cons_of_mem _ (List.mem_append_right _ ih)

/-- Replacing a slot that occurs once exchanges the slots inside it for those of the new content. -/
theorem count_names_replace {name : String} {body c : Content} (h : HasSlot name body c)
    (honce : c.names.count name ≤ 1) (f : Content → Content) (other : String) :
    (c.replace name f).names.count other + (name :: body.names).count other =
      c.names.count other + (f body).names.count other := by
  induction h with
  -- this is the one occurrence, so none is further on
  | here rest =>
    have hrest : name ∉ rest.names := by
      rw [names, List.count_cons_self, List.count_append] at honce
      exact List.count_eq_zero.1 (by omega)
    rw [replace, if_pos rfl, replace_of_notMem f hrest, names_append, names]
    simp only [List.count_cons, List.count_append]
    omega
  | text chars _ ih => exact ih honce
  | @inside outer inner rest h ih =>
    have hin := List.count_pos_iff.2 h.mem_names
    rw [names, List.count_cons, List.count_append] at honce
    have hne : outer ≠ name := by
      rintro rfl
      rw [beq_self_eq_true, if_pos rfl] at honce
      omega
    -- the one occurrence is inside, so only the inner content changes
    have hrest : name ∉ rest.names := List.count_eq_zero.1 (by omega)
    have hinner := ih (by omega)
    rw [replace, if_neg hne, replace_of_notMem f hrest, names, names]
    simp only [List.count_cons, List.count_append] at hinner ⊢
    omega
  | @after outer inner rest h ih =>
    have hin := List.count_pos_iff.2 h.mem_names
    rw [names, List.count_cons, List.count_append] at honce
    have hne : outer ≠ name := by
      rintro rfl
      rw [beq_self_eq_true, if_pos rfl] at honce
      omega
    have hinner : name ∉ inner.names := List.count_eq_zero.1 (by omega)
    have hrest := ih (by omega)
    rw [replace, if_neg hne, replace_of_notMem f hinner, names, names]
    simp only [List.count_cons, List.count_append] at hrest ⊢
    omega

/-- The anchor of the slot is found behind `before` and in front of the slot's default content, and
what comes before and after is the same whatever takes the slot's place. -/
structure Found (name : String) (c : Content) (cs before : List Char) (body : Content)
    (after : List Char) : Prop where
  slot : HasSlot name body c
  found : breakOn? (anchor name).toList (c.flatten ++ cs) =
    some (before, body.flatten ++ (after ++ cs))
  replaced : ∀ f, (c.replace name f).flatten = before ++ ((f body).flatten ++ after)

section Found

variable {name other : String} {c body inner rest : Content} {chars cs before after : List Char}

theorem Found.text (h : Found name rest cs before body after) (hchars : anchorMark ∉ chars) :
    Found name (.text chars rest) cs (chars ++ before) body after where
  slot := .text chars h.slot
  found := by
    rw [flatten, List.append_assoc, breakOn?_anchor_text hchars, h.found]
    rfl
  replaced f := by rw [replace, flatten, h.replaced f, List.append_assoc]

theorem Found.here (hrest : name ∉ rest.names) :
    Found name (.slot name inner rest) cs [] inner rest.flatten where
  slot := .here rest
  found := by rw [flatten, List.append_assoc, breakOn?_anchor_self, List.append_assoc]
  replaced f := by
    rw [replace, if_pos rfl, flatten_append, replace_of_notMem f hrest, List.nil_append]

/-- In the default content of another slot. -/
theorem Found.inside (h : Found name inner (rest.flatten ++ cs) before body after)
    (hname : GoodName name) (hother : GoodName other) (hne : name ≠ other)
    (hquiet : Quiet name (inner.flatten ++ (rest.flatten ++ cs))) (hrest : name ∉ rest.names) :
    Found name (.slot other inner rest) cs ((anchor other).toList ++ before) body
      (after ++ rest.flatten) where
  slot := .inside other rest h.slot
  found := by
    rw [flatten, List.append_assoc, List.append_assoc,
      breakOn?_anchor_of_ne hname hother hne hquiet, h.found]
    simp [prepend]
  replaced f := by
    rw [replace, if_neg (Ne.symm hne), flatten, h.replaced f, replace_of_notMem f hrest]
    simp

/-- Behind another slot. -/
theorem Found.behind (h : Found name rest cs before body after) (hname : GoodName name)
    (hother : GoodName other) (hne : name ≠ other) (hinner : inner.Clean)
    (hquiet : Quiet name (rest.flatten ++ cs)) (hnot : name ∉ inner.names) :
    Found name (.slot other inner rest) cs ((anchor other).toList ++ (inner.flatten ++ before)) body
      after where
  slot := .after other inner h.slot
  found := by
    rw [flatten, List.append_assoc, List.append_assoc,
      breakOn?_anchor_of_ne hname hother hne (quiet_flatten hname hinner hquiet),
      breakOn?_flatten_of_notMem hname hinner hnot hquiet, h.found]
    simp [prepend]
  replaced f := by
    rw [replace, if_neg (Ne.symm hne), flatten, replace_of_notMem f hnot, h.replaced f]
    simp

end Found

/-- **The anchor of a slot that occurs once is found** where the slot is. -/
theorem breakOn?_flatten_of_mem {name : String} {c : Content} (hc : c.Clean) (h : name ∈ c.names)
    (honce : c.names.count name ≤ 1) {cs : List Char} (hcs : Quiet name cs) :
    ∃ before body after, Found name c cs before body after := by
  have hname : GoodName name := goodName_of_mem hc h
  induction c generalizing cs with
  | done => cases h
  | text chars rest ih =>
    obtain ⟨before, body, after, hfound⟩ := ih hc.2 h honce hcs
    exact ⟨_, body, after, hfound.text hc.1⟩
  | slot other inner rest ihinner ihrest =>
    have hrestq : Quiet name (rest.flatten ++ cs) := quiet_flatten hname hc.2.2 hcs
    -- the slot is this one, or in its default content, or further on
    by_cases heq : name = other
    · subst heq
      rw [names, List.count_cons_self, List.count_append] at honce
      exact ⟨[], inner, _, .here (List.count_eq_zero.1 (by omega))⟩
    · rw [names, List.count_cons_of_ne (Ne.symm heq), List.count_append] at honce
      by_cases hin : name ∈ inner.names
      · have hone := List.count_pos_iff.2 hin
        have hrest : name ∉ rest.names := List.count_eq_zero.1 (by omega)
        obtain ⟨before, body, after, hfound⟩ := ihinner hc.2.1 hin (by omega) hrestq
        exact ⟨_, body, _, hfound.inside hname hc.1 heq (quiet_flatten hname hc.2.1 hrestq) hrest⟩
      · have hrest : name ∈ rest.names := by
          rw [names, List.mem_cons, List.mem_append] at h
          exact (h.resolve_left heq).resolve_left hin
        obtain ⟨before, body, after, hfound⟩ := ihrest hc.2.2 hrest (by omega) hcs
        exact ⟨_, body, after, hfound.behind hname hc.1 heq hc.2.1 hrestq hin⟩

end Content

end TagTemplate.Slots
