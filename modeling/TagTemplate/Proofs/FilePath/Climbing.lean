import TagTemplate.Proofs.FilePath

/-!
# Paths that step up

Whatever order names and steps up stand in, a path comes to some steps up and then some names: a
`..` takes back the name before it, and one with no name before it leaves the directory that the
path starts in. So a path can leave a directory through the front of what it comes to only.

- `along`, `place_eq_along`: a path leads where its components say;
- `climb`, `along_eq_endIn`: what components come to;
- `StaysIn`, `prefix_along_iff`: when components lead back into the directory they start in;
- `components_join`, `components_parent?`: the components of a path below another, and of the
  directory of a file;
- `relativeTo?_eq_some`: what is left of any path below a base.
-/

namespace TagTemplate.FilePath

/-! ## Where components lead -/

/-- Where components lead from a place: a step up goes back one step. -/
def along : List (List Char) → List Component → List (List Char)
  | names, [] => names
  | names, .up :: cs => along names.dropLast cs
  | names, .name s :: cs => along (names ++ [s]) cs
  | names, .root :: cs => along names cs
  | names, .here :: cs => along names cs

theorem along_append (names : List (List Char)) (before after : List Component) :
    along names (before ++ after) = along (along names before) after := by
  induction before generalizing names with
  | nil => rfl
  | cons c before ih => cases c <;> exact ih _

theorem along_names (start names : List (List Char)) :
    along start (names.map .name) = start ++ names := by
  induction names generalizing start with
  | nil => exact (List.append_nil _).symm
  | cons s names ih =>
    show along (start ++ [s]) (names.map .name) = _
    rw [ih, List.append_assoc, List.singleton_append]

/-- Segments lead where their components do. -/
theorem place_eq_along (names ss : List (List Char)) :
    place names ss = along names (ss.filterMap ofSegment?) := by
  induction ss generalizing names with
  | nil => rfl
  | cons s ss ih =>
    rw [place, List.filterMap_cons]
    rcases ofSegment?_cases s with hvoid | hup | hname
    · simp only [hvoid]
      exact ih names
    · simp only [hup]
      exact ih names.dropLast
    · simp only [hname]
      exact ih (names ++ [s])

/-! ## What components come to -/

/-- Some steps up and then some names. -/
structure Climb where
  ups : Nat
  names : List (List Char)
  deriving Repr, DecidableEq

namespace Climb

/-- One component more: a step up takes the last name back, if there is one. -/
def add (w : Climb) : Component → Climb
  | .up => if w.names = [] then ⟨w.ups + 1, []⟩ else ⟨w.ups, w.names.dropLast⟩
  | .name s => ⟨w.ups, w.names ++ [s]⟩
  | .root => w
  | .here => w

/-- Where a climb ends that starts in a directory; above the root there is only the root. -/
def endIn (w : Climb) (directory : List (List Char)) : List (List Char) :=
  directory.take (directory.length - w.ups) ++ w.names

theorem along_endIn (w : Climb) (directory : List (List Char)) (c : Component) :
    along (w.endIn directory) [c] = (w.add c).endIn directory := by
  cases c with
  | root => rfl
  | here => rfl
  | name s => exact List.append_assoc _ _ _
  | up =>
    show (w.endIn directory).dropLast = _
    unfold endIn add
    by_cases hnames : w.names = []
    · rw [if_pos hnames, hnames, List.append_nil, List.append_nil]
      show _ = directory.take (directory.length - (w.ups + 1))
      rw [List.dropLast_eq_take, List.take_take, List.length_take]
      congr 1
      omega
    · rw [if_neg hnames]
      exact List.dropLast_append_of_ne_nil hnames

theorem ups_le_add (w : Climb) (c : Component) : w.ups ≤ (w.add c).ups := by
  cases c with
  | root => exact Nat.le_refl _
  | here => exact Nat.le_refl _
  | name s => exact Nat.le_refl _
  | up =>
    by_cases hnames : w.names = []
    · rw [add, if_pos hnames]
      exact Nat.le_succ _
    · rw [add, if_neg hnames]

theorem ups_le_foldl (w : Climb) (cs : List Component) : w.ups ≤ (cs.foldl add w).ups := by
  induction cs generalizing w with
  | nil => exact Nat.le_refl _
  | cons c cs ih => exact Nat.le_trans (w.ups_le_add c) (ih (w.add c))

end Climb

/-- What components come to. -/
def climb (cs : List Component) : Climb := cs.foldl Climb.add ⟨0, []⟩

/-- **Components lead where the climb ends that they come to.** -/
theorem along_eq_endIn (directory : List (List Char)) (cs : List Component) :
    along directory cs = (climb cs).endIn directory := by
  have hfrom : ∀ w : Climb, along (w.endIn directory) cs =
      (cs.foldl Climb.add w).endIn directory := by
    induction cs with
    | nil => exact fun _ => rfl
    | cons c cs ih =>
      intro w
      rw [← List.singleton_append, along_append, w.along_endIn, ih]
      rfl
  have hstart := hfrom ⟨0, []⟩
  rwa [Climb.endIn, Nat.sub_zero, List.take_length, List.append_nil] at hstart

/-- The beginning of a path steps up no more often than all of it. -/
theorem ups_climb_le {cs ds : List Component} (h : cs <+: ds) :
    (climb cs).ups ≤ (climb ds).ups := by
  obtain ⟨more, rfl⟩ := h
  rw [climb, climb, List.foldl_append]
  exact Climb.ups_le_foldl _ more

theorem climb_names (names : List (List Char)) : climb (names.map .name) = ⟨0, names⟩ := by
  have hfrom : ∀ before, (names.map Component.name).foldl Climb.add ⟨0, before⟩ =
      ⟨0, before ++ names⟩ := by
    induction names with
    | nil => exact fun before => by rw [List.append_nil]; rfl
    | cons s names ih =>
      intro before
      show (names.map Component.name).foldl Climb.add ⟨0, before ++ [s]⟩ = _
      rw [ih, List.append_assoc, List.singleton_append]
  exact hfrom []

/-- The directories of its own that a path leaves are those it comes back into. -/
def StaysIn (directory : List (List Char)) (cs : List Component) : Prop :=
  directory.drop (directory.length - (climb cs).ups) <+: (climb cs).names

instance (directory : List (List Char)) (cs : List Component) : Decidable (StaysIn directory cs) :=
  inferInstanceAs (Decidable (_ <+: _))

/-- A path that never steps above the directory it starts in stays in it. -/
theorem staysIn_of_ups {directory : List (List Char)} {cs : List Component}
    (h : (climb cs).ups = 0) : StaysIn directory cs := by
  rw [StaysIn, h, Nat.sub_zero, List.drop_length]
  exact List.nil_prefix

/-- **Components lead into the directory they start in exactly if they come back by the names they
leave.** -/
theorem prefix_along_iff (directory : List (List Char)) (cs : List Component) :
    directory <+: along directory cs ↔ StaysIn directory cs := by
  rw [along_eq_endIn, Climb.endIn, StaysIn]
  generalize directory.length - (climb cs).ups = n
  calc
    directory <+: directory.take n ++ (climb cs).names
      ↔ directory.take n ++ directory.drop n <+: directory.take n ++ (climb cs).names := by
        rw [List.take_append_drop]
    _ ↔ directory.drop n <+: (climb cs).names := List.prefix_append_right_inj _

/-! ## Components of paths that are put together or taken apart -/

theorem components_of_isAbsolute {path : String} (h : isAbsolute path = true) :
    components path = .root :: (segments path.toList).filterMap ofSegment? := by
  obtain ⟨cs, hpath⟩ := List.head?_eq_some_iff.1 (beq_iff_eq.1 h)
  rw [components, parts, hpath, segments, if_pos rfl]
  rfl

/-- A path from the root leads where its components say. -/
theorem place?_eq_along {path : String} {cs : List Component} (h : components path = .root :: cs)
    (directory : String) : place? directory path = some (along [] cs) := by
  obtain ⟨habsolute, -, hsegments⟩ := components_root h
  have hne : path ≠ "" := by
    rintro rfl
    cases habsolute
  rw [place?, if_neg hne, fromDirectory, if_pos habsolute, place_eq_along, hsegments]

/-- A path below another has the components of both. -/
theorem components_join {base path : String} {cs : List Component}
    (hbase : components base = .root :: cs) (hpath : isAbsolute path = false) :
    components (join base path) = .root :: (cs ++ (segments path.toList).filterMap ofSegment?) := by
  obtain ⟨habsolute, -, hsegments⟩ := components_root hbase
  have hne : base ≠ "" := by
    rintro rfl
    cases habsolute
  have hmore : ∀ more : String, isAbsolute (base ++ more) = true := fun more =>
    (isAbsolute_append hne more).trans habsolute
  rw [join, if_neg (by simp [hpath, hne])]
  by_cases hslash : base.toList.getLast? = some '/'
  · obtain ⟨front, hfront⟩ := List.getLast?_eq_some_iff.1 hslash
    rw [if_pos hslash, components_of_isAbsolute (hmore path), String.toList_append, hfront,
      List.append_assoc, List.singleton_append, segments_append_slash, List.filterMap_append]
    rw [hfront, segments_append_slash, List.filterMap_append] at hsegments
    -- nothing stands behind the slash that the base ends with
    rw [← hsegments]
    simp [segments, ofSegment?]
  · rw [if_neg hslash, String.append_assoc, components_of_isAbsolute (hmore _),
      String.toList_append, String.toList_append]
    show Component.root :: (segments (base.toList ++ '/' :: path.toList)).filterMap _ = _
    rw [segments_append_slash, List.filterMap_append, hsegments]

/-! ## Trimmed segments -/

theorem filterMap_trimmedStart (ss : List (List Char)) :
    (trimmedStart ss).filterMap ofSegment? = ss.filterMap ofSegment? := by
  induction ss with
  | nil => rfl
  | cons s ss ih =>
    rw [trimmedStart, List.dropWhile_cons]
    cases hs : ofSegment? s with
    | none =>
      rw [if_pos (by rw [isVoid, hs]; rfl), List.filterMap_cons_none hs]
      exact ih
    | some c => rw [if_neg (by rw [isVoid, hs]; exact Bool.false_ne_true)]

theorem filterMap_trimmedEnd (ss : List (List Char)) :
    (trimmedEnd ss).filterMap ofSegment? = ss.filterMap ofSegment? := by
  rw [trimmedEnd, List.filterMap_reverse, ← trimmedStart, filterMap_trimmedStart,
    List.filterMap_reverse, List.reverse_reverse]

theorem filterMap_dropComponents (n : Nat) (ss : List (List Char)) :
    (dropComponents n ss).filterMap ofSegment? = (ss.filterMap ofSegment?).drop n := by
  induction ss generalizing n with
  | nil => cases n <;> rfl
  | cons s ss ih =>
    cases n with
    | zero => rfl
    | succ n =>
      rw [dropComponents]
      cases hs : ofSegment? s with
      | none =>
        rw [if_pos (by rw [isVoid, hs]; rfl), List.filterMap_cons_none hs]
        exact ih (n + 1)
      | some c =>
        rw [if_neg (by rw [isVoid, hs]; exact Bool.false_ne_true), List.filterMap_cons_some hs]
        exact ih n

theorem dropComponents_subset (n : Nat) (ss : List (List Char)) : dropComponents n ss ⊆ ss := by
  induction ss generalizing n with
  | nil => cases n <;> exact fun _ hs => hs
  | cons s ss ih =>
    cases n with
    | zero => exact fun _ hs => hs
    | succ n =>
      rw [dropComponents]
      split
      · exact List.subset_cons_of_subset s (ih (n + 1))
      · exact List.subset_cons_of_subset s (ih n)

/-- Segments without slashes of which neither the first nor the last is void. -/
structure Trimmed (ss : List (List Char)) : Prop where
  slashless : Slashless ss
  head : ∀ s, ss.head? = some s → isVoid s = false
  last : ∀ s, ss.getLast? = some s → isVoid s = false

theorem isPrefix_trimmedEnd (ss : List (List Char)) : trimmedEnd ss <+: ss := by
  rw [trimmedEnd, ← List.reverse_suffix, List.reverse_reverse]
  exact List.dropWhile_suffix _

theorem getLast?_trimmedEnd {ss : List (List Char)} {s : List Char}
    (h : (trimmedEnd ss).getLast? = some s) : isVoid s = false := by
  rw [trimmedEnd, List.getLast?_reverse] at h
  have hfirst := List.head?_dropWhile_not isVoid ss.reverse
  rwa [h] at hfirst

theorem trimmed_of_slashless {ss : List (List Char)} (h : Slashless ss) :
    Trimmed (trimmedEnd (trimmedStart ss)) := by
  have hend := isPrefix_trimmedEnd (trimmedStart ss)
  refine ⟨fun s hs => ?_, fun s hs => ?_, fun s hs => getLast?_trimmedEnd hs⟩
  · exact h s ((List.dropWhile_suffix isVoid).subset (hend.subset hs))
  · obtain ⟨more, hmore⟩ := hend
    have hstart : (trimmedStart ss).head? = some s := by
      rw [← hmore, List.head?_append, hs, Option.some_or]
    have hfirst := List.head?_dropWhile_not isVoid ss
    rw [trimmedStart] at hstart
    rwa [hstart] at hfirst

namespace Trimmed

variable {ss : List (List Char)}

/-- Trimmed segments are none, or they end with one that makes a component. -/
theorem cases (h : Trimmed ss) :
    ss = [] ∨ ∃ front last, ss = front ++ [last] ∧ ∃ c, ofSegment? last = some c := by
  rcases List.eq_nil_or_concat ss with rfl | ⟨front, last, rfl⟩
  · exact .inl rfl
  · rw [List.concat_eq_append] at h ⊢
    refine .inr ⟨front, last, rfl, ?_⟩
    have hlast := h.last last (by simp)
    rwa [isVoid, Option.isNone_eq_false_iff, Option.isSome_iff_exists] at hlast

/-- Trimmed segments put together make no absolute path. -/
theorem isAbsolute (h : Trimmed ss) : isAbsolute (String.ofList (unsegmented ss)) = false :=
  isAbsolute_unsegmented h.slashless fun hhead => absurd (h.head [] hhead) (by decide)

end Trimmed

theorem AreNames.trimmed {names : List (List Char)} (h : AreNames names) : Trimmed names := by
  have htrimmed := trimmed_of_slashless h.slashless
  rwa [h.trimmedStart, h.trimmedEnd] at htrimmed

/-! ## The directory of a file -/

theorem filterMap_segments_unsegmented {ss : List (List Char)} (h : Slashless ss) :
    (segments (unsegmented ss)).filterMap ofSegment? = ss.filterMap ofSegment? := by
  by_cases hss : ss = []
  · rw [hss]
    rfl
  · rw [segments_unsegmented hss h]

/-- The parts of an absolute path are the root and segments. -/
theorem parts_of_isAbsolute {path : String} (h : isAbsolute path = true) :
    ∃ ss, parts path = ⟨some .root, ss⟩ ∧ Slashless ss := by
  obtain ⟨cs, hpath⟩ := List.head?_eq_some_iff.1 (beq_iff_eq.1 h)
  refine ⟨segments cs, ?_, slashless_segments cs⟩
  rw [parts, hpath]
  rfl

/-- The directory of a file has all its components but the last. -/
theorem components_parent? {path : String} {cs : List Component} {c : Component}
    (h : components path = .root :: (cs ++ [c])) :
    ∃ parent, parent? path = some parent ∧ components parent = .root :: cs := by
  obtain ⟨habsolute, hbody, -⟩ := components_root h
  obtain ⟨ss, hparts, hslashless⟩ := parts_of_isAbsolute habsolute
  rw [hparts] at hbody
  have hend : (trimmedEnd ss).filterMap ofSegment? = cs ++ [c] := by
    rw [filterMap_trimmedEnd]
    exact hbody
  rcases List.eq_nil_or_concat (trimmedEnd ss) with hnil | ⟨front, last, hconcat⟩
  · rw [hnil] at hend
    exact absurd hend (by simp)
  · rw [List.concat_eq_append] at hconcat
    -- what ends the path is a component, so the others are in front of it
    have hfront : front.filterMap ofSegment? = cs := by
      have hgetLast : (trimmedEnd ss).getLast? = some last := by rw [hconcat, List.getLast?_concat]
      have hlast : isVoid last = false := getLast?_trimmedEnd hgetLast
      obtain ⟨d, hd⟩ := Option.isSome_iff_exists.1 (Option.isNone_eq_false_iff.1 hlast)
      rw [hconcat, List.filterMap_append, List.filterMap_cons_some hd] at hend
      exact (List.append_inj' hend rfl).1
    have hslash : Slashless (trimmedEnd front) := fun s hs => by
      refine hslashless s ((isPrefix_trimmedEnd ss).subset ?_)
      rw [hconcat]
      exact List.mem_append_left _ ((isPrefix_trimmedEnd front).subset hs)
    refine ⟨Parts.path ⟨some .root, trimmedEnd front⟩, ?_, ?_⟩
    · rw [parent?, hparts]
      simp only [hconcat]
      split
      · rename_i hnil _
        exact absurd hnil (by simp)
      · rename_i hnil _
        exact absurd hnil (by simp)
      · rw [List.dropLast_concat]
    · rw [components_of_isAbsolute (by simp [Parts.path, isAbsolute]), Parts.path,
        String.toList_ofList, segments, if_pos rfl, List.filterMap_cons_none rfl,
        filterMap_segments_unsegmented hslash, filterMap_trimmedEnd, hfront]

/-! ## What is left below a base -/

/-- **What is left of a path that begins with the components of a base** has the others. -/
theorem relativeTo?_eq_some {root path : String} {base rest : List Component}
    (hroot : components root = .root :: base) (hpath : components path = .root :: (base ++ rest)) :
    ∃ ss, relativeTo? root path = some (String.ofList (unsegmented ss)) ∧ Trimmed ss ∧
      ss.filterMap ofSegment? = rest := by
  obtain ⟨-, hbase, -⟩ := components_root hroot
  obtain ⟨habsolute, hbody, -⟩ := components_root hpath
  obtain ⟨body, hparts, hslashless⟩ := parts_of_isAbsolute habsolute
  have hsome : (parts root).components ≠ [] := by
    rw [← components, hroot]
    exact List.cons_ne_nil _ _
  -- the path begins with all of the root, component by component
  have hstart : (parts root).components.isPrefixOf (parts path).components = true := by
    rw [List.isPrefixOf_iff_prefix, ← components, ← components, hroot, hpath]
    exact List.cons_prefix_cons.2 ⟨rfl, List.prefix_append _ _⟩
  refine ⟨_, ?_, @trimmed_of_slashless (dropComponents base.length body) ?_, ?_⟩
  · rw [hparts] at hstart
    rw [relativeTo?, hparts]
    simp only [if_neg hsome, if_pos hstart, hbase]
    rfl
  · exact fun s hs => hslashless s (dropComponents_subset _ _ hs)
  · rw [hparts] at hbody
    rw [filterMap_trimmedEnd, filterMap_trimmedStart, filterMap_dropComponents, hbody,
      List.drop_left]

/-- Nothing is left of a path that does not begin with the components of a base. -/
theorem relativeTo?_eq_none_of_notBelow {root path : String} (hroot : components root ≠ [])
    (h : ¬components root <+: components path) : relativeTo? root path = none := by
  have hstart : ¬(parts root).components.isPrefixOf (parts path).components = true := by
    rw [List.isPrefixOf_iff_prefix]
    exact h
  rw [relativeTo?]
  simp only [if_neg (show ¬(parts root).components = [] from hroot), if_neg hstart]

/-- The segments of a path have no slash in them. -/
theorem slashless_parts (path : String) : Slashless (parts path).body := by
  unfold parts
  split
  · exact slashless_segments _
  · rename_i cs _
    have hall := slashless_segments path.toList
    split
    · rename_i ss hss
      exact fun s hs => hall s (hss ▸ List.mem_cons_of_mem _ hs)
    · exact hall

/-- The components of a path that are names are names of files. -/
theorem areNames_components (path : String) :
    AreNames ((components path).filterMap Component.name?) := by
  intro s hs
  obtain ⟨c, hc, hname⟩ := List.mem_filterMap.1 hs
  obtain rfl : c = .name s := by
    cases c <;> cases hname
    rfl
  rw [components, Parts.components] at hc
  -- what leads a path is no name, and the rest is cut at every slash
  rcases List.mem_append.1 hc with hlead | hbody
  · rcases parts_cases path with ⟨_, -, hparts⟩ | ⟨_, hparts⟩ | ⟨-, _, _, -, -, hparts⟩
    · rw [hparts] at hlead
      cases List.mem_singleton.1 hlead
    · rw [hparts] at hlead
      cases List.mem_singleton.1 hlead
    · rw [hparts] at hlead
      cases hlead
  · obtain ⟨t, ht, hsegment⟩ := List.mem_filterMap.1 hbody
    have hslash := slashless_parts path t ht
    unfold ofSegment? at hsegment
    split_ifs at hsegment with hvoid hup
    · cases hsegment
    obtain rfl : t = s := Component.name.inj (Option.some.inj hsegment)
    exact ⟨fun h => hvoid (.inl h), fun h => hvoid (.inr h), hup, hslash⟩

end TagTemplate.FilePath
