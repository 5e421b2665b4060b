import TagTemplate.Proofs.Slots.Pass

/-!
# Slots that are written more than once

The text of a slot can be stored and written again, and then its anchor stands in several places.
Each slot is worked off once, at the first of them. Without plugs nothing else happens, so that it
can be said exactly what is left.

- `Content.openFirst`: content without the first anchor of a slot;
- `reconcileSlot?_unplugged`: a slot without plugs is worked off by this;
- `reconcile_unplugged`: **every noted slot loses its first anchor**;
- `count_names_openAll`: of the anchors of a noted slot all but one are left.
-/

namespace TagTemplate.Slots

open TagTemplate.Text

namespace Content

/-- The first slot of the name gives way to its default content. -/
def openFirst (name : String) : Content → Content
  | done => done
  | text chars rest => text chars (rest.openFirst name)
  | slot other body rest =>
    if other = name then body.append rest
    else if name ∈ body.names then slot other (body.openFirst name) rest
    else slot other body (rest.openFirst name)

/-- The first slot of each of the names gives way to its default content. -/
def openAll (names : List String) (c : Content) : Content :=
  names.foldl (fun c name => c.openFirst name) c

variable {name : String} {names : List String} {c : Content}

theorem clean_openFirst (name : String) (hc : c.Clean) : (c.openFirst name).Clean := by
  induction c with
  | done => trivial
  | text chars rest ih => exact ⟨hc.1, ih hc.2⟩
  | slot other body rest ihbody ihrest =>
    rw [openFirst]
    split
    · exact clean_append hc.2.1 hc.2.2
    · split
      · exact ⟨hc.1, ihbody hc.2.1, hc.2.2⟩
      · exact ⟨hc.1, hc.2.1, ihrest hc.2.2⟩

theorem openFirst_of_notMem (h : name ∉ c.names) : c.openFirst name = c := by
  induction c with
  | done => rfl
  | text chars rest ih => rw [openFirst, ih h]
  | slot other body rest _ ihrest =>
    rw [Content.names, List.mem_cons, List.mem_append, not_or, not_or] at h
    rw [openFirst, if_neg (Ne.symm h.1), if_neg h.2.1, ihrest h.2.2]

/-- One slot of the name is gone, and no other. -/
theorem count_names_openFirst (name other : String) (c : Content) :
    (c.openFirst name).names.count other = c.names.count other - if other = name then 1 else 0 := by
  have hle : ∀ {l : List String}, name ∈ l → other = name → 1 ≤ l.count other := by
    rintro l hl rfl
    exact List.count_pos_iff.2 hl
  -- only a slot of the name is opened, and at most one
  by_cases hmem : name ∈ c.names
  · induction c with
    | done => cases hmem
    | text chars rest ih => exact ih hmem
    | slot first body rest ihbody ihrest =>
      rw [openFirst]
      by_cases hfirst : first = name
      · rw [if_pos hfirst, names_append, Content.names, hfirst]
        by_cases hother : other = name
        · rw [if_pos hother, hother, List.count_cons_self, Nat.add_sub_cancel]
        · rw [if_neg hother, List.count_cons_of_ne (Ne.symm hother), Nat.sub_zero]
      · rw [if_neg hfirst]
        have hinside := List.mem_append.1 ((List.mem_cons.1 hmem).resolve_left (Ne.symm hfirst))
        split
        · rename_i hbody
          rw [Content.names, Content.names, List.count_cons, List.count_cons, List.count_append,
            List.count_append, ihbody hbody]
          split <;> rename_i hother
          · have := hle hbody hother
            omega
          · omega
        · rename_i hbody
          have hrest := hinside.resolve_left hbody
          rw [Content.names, Content.names, List.count_cons, List.count_cons, List.count_append,
            List.count_append, ihrest hrest]
          split <;> rename_i hother
          · have := hle hrest hother
            omega
          · omega
  · rw [openFirst_of_notMem hmem]
    split
    · rename_i hother
      rw [hother, List.count_eq_zero.2 hmem]
    · exact (Nat.sub_zero _).symm

/-- The anchor is found where the first slot of the name stands. -/
theorem breakOn?_flatten_first (hc : c.Clean) (h : name ∈ c.names) {cs : List Char}
    (hcs : Quiet name cs) :
    ∃ before after, breakOn? (anchor name).toList (c.flatten ++ cs) = some (before, after ++ cs) ∧
      (c.openFirst name).flatten = before ++ after := by
  have hname : GoodName name := goodName_of_mem hc h
  induction c generalizing cs with
  | done => cases h
  | text chars rest ih =>
    obtain ⟨before, after, hfound, hflatten⟩ := ih hc.2 h hcs
    refine ⟨chars ++ before, after, ?_, ?_⟩
    · rw [flatten, List.append_assoc, breakOn?_anchor_text hc.1, hfound]
      rfl
    · rw [openFirst, flatten, hflatten, List.append_assoc]
  | slot other body rest ihbody ihrest =>
    by_cases heq : name = other
    · subst heq
      refine ⟨[], body.flatten ++ rest.flatten, ?_, ?_⟩
      · rw [flatten, List.append_assoc, breakOn?_anchor_self]
      · rw [openFirst, if_pos rfl, flatten_append, List.nil_append]
    · have hrestq : Quiet name (rest.flatten ++ cs) := quiet_flatten hname hc.2.2 hcs
      have hquiet : Quiet name (body.flatten ++ (rest.flatten ++ cs)) :=
        quiet_flatten hname hc.2.1 hrestq
      rw [flatten, List.append_assoc, List.append_assoc,
        breakOn?_anchor_of_ne hname hc.1 heq hquiet, openFirst, if_neg (Ne.symm heq)]
      -- inside of another slot, or behind it
      by_cases hin : name ∈ body.names
      · obtain ⟨before, after, hfound, hflatten⟩ := ihbody hc.2.1 hin hrestq
        refine ⟨(anchor other).toList ++ before, after ++ rest.flatten, ?_, ?_⟩
        · rw [hfound, List.append_assoc]
          rfl
        · rw [if_pos hin, flatten, hflatten]
          simp only [List.append_assoc]
      · have hrest : name ∈ rest.names := by
          rw [Content.names, List.mem_cons, List.mem_append] at h
          exact (h.resolve_left heq).resolve_left hin
        obtain ⟨before, after, hfound, hflatten⟩ := ihrest hc.2.2 hrest hcs
        refine ⟨(anchor other).toList ++ (body.flatten ++ before), after, ?_, ?_⟩
        · rw [breakOn?_flatten_of_notMem hname hc.2.1 hin hrestq, hfound]
          rfl
        · rw [if_neg hin, flatten, hflatten]
          simp only [List.append_assoc]

end Content

open Content

variable {s : Slots} {name : String} {names : List String} {c : Content}

/-- A slot without plugs is worked off where it stands first. -/
theorem reconcileSlot?_unplugged (hqueue : s.queue = []) (hc : c.Clean) (h : name ∈ c.names) :
    s.reconcileSlot? name c.flatten = some ((c.openFirst name).flatten, s) := by
  obtain ⟨before, after, hfound, hflatten⟩ := breakOn?_flatten_first hc h (quiet_nil name)
  rw [List.append_nil, List.append_nil] at hfound
  have hplugs : s.plugs name = [] := by rw [plugs, hqueue, List.filter_nil, List.map_nil]
  rw [reconcileSlot?_kept hfound hplugs, hflatten]

/-- A pass leaves the slots that are not there. -/
theorem reconcilePass_unplugged (hqueue : s.queue = []) (hc : c.Clean) (hnodup : names.Nodup)
    (hgood : ∀ name ∈ names, GoodName name) :
    s.reconcilePass names c.flatten =
      (names.filter fun name => name ∉ c.names, (c.openAll names).flatten, s) := by
  induction names generalizing c with
  | nil => rfl
  | cons name names ih =>
    obtain ⟨hnew, hnodup⟩ := List.nodup_cons.1 hnodup
    obtain ⟨hname, hgood⟩ := List.forall_mem_cons.1 hgood
    by_cases hmem : name ∈ c.names
    · rw [reconcilePass_cons_of_some (reconcileSlot?_unplugged hqueue hc hmem),
        ih (clean_openFirst name hc) hnodup hgood, List.filter_cons_of_neg (by simpa using hmem)]
      refine Prod.ext (List.filter_congr fun other hother => ?_) rfl
      have hne : other ≠ name := fun heq => hnew (heq ▸ hother)
      refine decide_eq_decide.2 (not_congr ?_)
      rw [← List.count_pos_iff, ← List.count_pos_iff, count_names_openFirst, if_neg hne,
        Nat.sub_zero]
    · rw [reconcilePass_cons_of_none
          (reconcileSlot?_absent (breakOn?_flatten_eq_none hname hc hmem)),
        ih hc hnodup hgood, List.filter_cons_of_pos (by simpa using hmem), openAll, openAll,
        List.foldl_cons, openFirst_of_notMem hmem]

theorem clean_openAll (names : List String) (hc : c.Clean) : (c.openAll names).Clean := by
  induction names generalizing c with
  | nil => exact hc
  | cons name names ih => exact ih (clean_openFirst name hc)

/-- **Of the anchors of a slot all but one are left.** -/
theorem count_names_openAll (hnodup : names.Nodup) (other : String) :
    (c.openAll names).names.count other = c.names.count other - if other ∈ names then 1 else 0 := by
  induction names generalizing c with
  | nil => rfl
  | cons name names ih =>
    obtain ⟨hnew, hnodup⟩ := List.nodup_cons.1 hnodup
    rw [openAll, List.foldl_cons]
    refine (ih hnodup).trans ?_
    rw [count_names_openFirst]
    by_cases heq : other = name
    · subst heq
      rw [if_pos rfl, if_neg hnew, if_pos List.mem_cons_self, Nat.sub_zero]
    · rw [if_neg heq, Nat.sub_zero]
      simp only [List.mem_cons, heq, false_or]

/-- **Without plugs every noted slot loses its first anchor**, and nothing else changes. -/
theorem reconcile_unplugged (hqueue : s.queue = []) (hdistinct : s.lengths.Distinct) (hc : c.Clean)
    (hgood : ∀ name ∈ s.lengths.keys, GoodName name) :
    s.reconcile (String.ofList c.flatten) =
      (String.ofList (c.openAll s.lengths.keys).flatten, s) := by
  have hall : s.reconcileAll s.lengths.keys c.flatten =
      ((c.openAll s.lengths.keys).flatten, s) := by
    rw [reconcileAll, reconcilePass_unplugged hqueue hc hdistinct hgood]
    dsimp only
    split
    · -- what is left was not there at first, so a second pass finds nothing
      refine reconcileAll_of_absent fun name hname => ?_
      obtain ⟨hnoted, hnot⟩ := List.mem_filter.1 hname
      refine breakOn?_flatten_eq_none (hgood name hnoted) (clean_openAll _ hc) ?_
      rw [← List.count_eq_zero, count_names_openAll hdistinct,
        List.count_eq_zero.2 (by simpa using hnot), Nat.zero_sub]
    · rfl
  rw [reconcile, String.toList_ofList, hall]

/-- **An anchor is left exactly if a slot was not noted, or stands in two places.** -/
theorem mem_reconcile_unplugged_iff (hqueue : s.queue = []) (hdistinct : s.lengths.Distinct)
    (hc : c.Clean) (hgood : ∀ name ∈ s.lengths.keys, GoodName name) :
    anchorMark ∈ (s.reconcile (String.ofList c.flatten)).1.toList ↔
      ∃ name ∈ c.names, name ∉ s.lengths.keys ∨ 1 < c.names.count name := by
  rw [reconcile_unplugged hqueue hdistinct hc hgood, String.toList_ofList,
    mem_flatten_iff (clean_openAll _ hc), ne_eq, List.eq_nil_iff_forall_not_mem, not_forall_not]
  refine exists_congr fun name => ?_
  rw [← List.count_pos_iff, ← List.count_pos_iff, count_names_openAll hdistinct]
  by_cases hmem : name ∈ s.lengths.keys
  · rw [if_pos hmem, or_iff_right (not_not_intro hmem)]
    omega
  · rw [if_neg hmem, Nat.sub_zero, and_iff_left (.inl hmem)]

end TagTemplate.Slots
